import SigningConsole.Proofs.GoneSession
import SigningConsole.Proofs.LoginOutcome
/-!
What the commands of a console do after a rejection.

Most of what a command does heeds rejections (`Setup.Heeds`): it stores nothing but by the adapter,
which buries the session. What is shown heeds them because it touches neither the files nor the
backend (`Run.Shows`). An export writes files whose paths it does not choose, and so it might bring
a session file back; but it writes them when its only call was accepted, so that its rejections are
final all the same (`Setup.Ends`).
-/

namespace SigningConsole

open Calendar Text

variable {α β : Type}

namespace Console

/-- What a console leaves behind: its files and its deeds. -/
def trace (c : Console) : Files × Deeds := (c.files, c.deeds)

end Console

/-! ## Steps that heed rejections -/

namespace Setup

/-- There is no session file. -/
def Gone (e : Setup) (c : Console) : Prop := SessionStore.NoFile e.sessionPath c.files

theorem adapter_buries (e : Setup) : e.client.adapter.Buries e.Gone where
  store := (SessionStore.file_buries e.sessionPath).onPart Console.filesPart
  clear c := eq_true (((SessionStore.file_buries e.sessionPath).onPart Console.filesPart).clear c)
  send _ _ _ := rfl
  redirect _ := rfl
  notify _ _ := rfl
  log _ _ := rfl

/-- A rejection by the computation is final, and a session that was gone before stays gone. -/
def Heeds (e : Setup) (m : StateM Console α) : Prop :=
  ∀ c, After m c fun _ c' => Lasting e.Gone Console.deeds c c'

/-- A rejection by the computation is final. -/
def Ends (e : Setup) (m : StateM Console α) : Prop :=
  ∀ c, After m c fun _ c' => Final e.Gone Console.deeds c c'

variable {e : Setup}

theorem Heeds.of_keeps {m : StateM Console α} (h : Keeps Console.trace m) : e.Heeds m := by
  intro c
  refine (h c).mono fun _ c' hc' => ?_
  obtain ⟨hfiles, hd⟩ := Prod.mk.inj hc'
  refine .of_eq hd fun hgone => ?_
  unfold Gone
  rw [hfiles]
  exact hgone

theorem Heeds.pure (a : α) : e.Heeds (pure a : StateM Console α) := .of_keeps (.pure a)

theorem Heeds.bind {m : StateM Console α} {k : α → StateM Console β} (hm : e.Heeds m)
    (hk : ∀ a, e.Heeds (k a)) :
    e.Heeds (m >>= k) := by
  intro c
  exact (hm c).bind fun a c' hc' => (hk a c').mono fun _ _ h => hc'.trans h

theorem Heeds.bindExcept {ε : Type} {m : ExceptT ε (StateM Console) α}
    {k : α → ExceptT ε (StateM Console) β} (hm : e.Heeds m.run) (hk : ∀ a, e.Heeds (k a).run) :
    e.Heeds (m >>= k).run := by
  intro c
  exact (hm c).bindExcept (fun a c' hc' => (hk a c').mono fun _ _ h => hc'.trans h) fun _ _ h => h

theorem Heeds.ends {m : StateM Console α} (h : e.Heeds m) : e.Ends m :=
  fun c => (h c).mono fun _ _ h => h.1

theorem Heeds.bindLift {ε : Type} {m : StateM Console α} {k : α → ExceptT ε (StateM Console) β}
    (hm : e.Heeds m) (hk : ∀ a, e.Heeds (k a).run) :
    e.Heeds ((liftM m : ExceptT ε (StateM Console) α) >>= k).run := by
  intro c
  exact (hm c).bindLift fun a c' hc' => (hk a c').mono fun _ _ h => hc'.trans h

theorem Heeds.map {ε : Type} {m : ExceptT ε (StateM Console) α} (h : e.Heeds m.run) (f : α → β) :
    e.Heeds (f <$> m).run := by
  rw [ExceptT.run_map]
  exact h

/-- After a rejection comes nothing but what heeds it. -/
theorem Ends.bindExcept {ε : Type} {m : ExceptT ε (StateM Console) α}
    {k : α → ExceptT ε (StateM Console) β} (hm : e.Ends m.run) (hk : ∀ a, e.Heeds (k a).run) :
    e.Ends (m >>= k).run := by
  intro c
  exact (hm c).bindExcept (fun a c' hc' => (hk a c').mono fun _ _ h => hc'.trans_lasting h)
    fun _ _ h => h

/-- Before anything is sent, anything may be stored. -/
theorem Ends.of_silent {ε : Type} {m : ExceptT ε (StateM Console) α}
    {k : α → ExceptT ε (StateM Console) β} (hm : Keeps Console.deeds m.run)
    (hk : ∀ a, e.Ends (k a).run) : e.Ends (m >>= k).run := by
  intro c
  refine (hm c).bindExcept (fun a c' hc' => ?_) fun _ c' hc' => (Accepted.of_eq hc').final
  exact (hk a c').mono fun _ _ h => (Accepted.of_eq hc').trans_final h

/-! ## Calls -/

/-- A request that is answered met no rejection. -/
theorem request_lasting (spec : CallPlan) (c : Console) :
    After (e.client.request spec).run c fun r c' =>
      Lasting e.Gone Console.deeds c c' ∧ ∀ payload, r = .ok payload →
        Accepted Console.deeds c c' := by
  have hcall := Adapter.request_lasting e.adapter_buries e.adapter_does (e.clock c.readings) spec
    { c with readings := c.readings + 1 }
  unfold Client.request
  exact e.after_now hcall

theorem json_lasting (d : Json.Decoder α) (spec : CallPlan) (c : Console) :
    After (e.client.json d spec).run c fun r c' =>
      Lasting e.Gone Console.deeds c c' ∧ ∀ v, r = .ok v → Accepted Console.deeds c c' := by
  have hcall := Adapter.json_lasting e.adapter_buries e.adapter_does (e.clock c.readings) d spec
    { c with readings := c.readings + 1 }
  unfold Client.json
  exact e.after_now hcall

theorem request_heeds (spec : CallPlan) : e.Heeds (e.client.request spec).run := fun c =>
  (request_lasting spec c).mono fun _ _ h => h.1

theorem json_heeds (d : Json.Decoder α) (spec : CallPlan) : e.Heeds (e.client.json d spec).run :=
  fun c =>
  (json_lasting d spec c).mono fun _ _ h => h.1

/-- An entry of the log is no deed. -/
theorem info_heeds (group text : String) : e.Heeds (e.client.info group text).run :=
  .of_keeps fun _ => rfl

theorem listTokens_heeds : e.Heeds e.client.tokens.listTokens.run :=
  (json_heeds _ _).bindExcept fun _ => .pure _

theorem createToken_heeds (r : NewToken) : e.Heeds (e.client.tokens.createToken r).run :=
  (json_heeds _ _).bindExcept fun _ => (info_heeds _ _).bindExcept fun _ => .pure _

theorem deleteToken_heeds (id : Int32) : e.Heeds (e.client.tokens.deleteToken id).run :=
  (request_heeds _).bindExcept fun _ => info_heeds _ _

theorem createKey_heeds (r : NewKey) : e.Heeds (e.client.createKey r).run :=
  (json_heeds _ _).bindExcept fun _ => (info_heeds _ _).bindExcept fun _ => .pure _

theorem importKey_heeds (r : ImportedKey) : e.Heeds (e.client.importKey r).run :=
  (json_heeds _ _).bindExcept fun _ => (info_heeds _ _).bindExcept fun _ => .pure _

theorem keyOperation_heeds (id : Int32) (action : KeyOperation) :
    e.Heeds (e.client.keyOperation id action).run := by
  unfold Client.keyOperation
  split
  · exact .pure _
  · exact (request_heeds _).bindExcept fun _ => info_heeds _ _

theorem isNameFree_heeds (name : String) (visibility : Visibility) :
    e.Heeds (e.client.isNameFree name visibility).run := by
  unfold Client.isNameFree
  refine (request_heeds _).bind fun r => ?_
  split
  · exact .pure _
  · exact .pure _
  · exact .pure _

theorem cooperatorSave_heeds (doc : Json) : e.Heeds (e.client.cooperatorSave doc).run :=
  (json_heeds _ _).bindExcept fun _ => (info_heeds _ _).bindExcept fun _ => .pure _

theorem logout_heeds : e.Heeds e.client.auth.logout.run :=
  (request_heeds _).bindExcept fun _ => .pure _

end Setup

/-! ## What is shown -/

namespace Run

/-- The step changes neither the files nor what was sent. -/
def Shows (m : Run α) : Prop := Keeps Console.trace m.run

theorem Shows.pure (a : α) : Shows (pure a : Run α) := fun _ => rfl

theorem Shows.throw (failure : Failure) : Shows (throw failure : Run α) := fun _ => rfl

theorem Shows.bind {m : Run α} {k : α → Run β} (hm : Shows m) (hk : ∀ a, Shows (k a)) :
    Shows (m >>= k) :=
  Keeps.bindExcept hm hk

/-- The state may be looked at. -/
theorem Shows.get {k : Console → Run α} (hk : ∀ c, Shows (k c)) : Shows (MonadState.get >>= k) :=
  fun c => hk c c

theorem Shows.forM {f : α → Run PUnit} (h : ∀ a, Shows (f a)) (as : List α) :
    Shows (as.forM f) := by
  induction as with
  | nil => exact .pure _
  | cons a as ih => exact (h a).bind fun _ => ih

theorem Shows.heeds {e : Setup} {m : Run α} (h : Shows m) : e.Heeds m.run := .of_keeps h

/-- A step that heeds rejections may go by the state. -/
theorem get_heeds {e : Setup} {k : Console → Run α} (hk : ∀ c, e.Heeds (k c).run) :
    e.Heeds (MonadState.get >>= k).run := fun c => hk c c

/-- The step sends nothing. -/
def Silent (m : Run α) : Prop := Keeps Console.deeds m.run

theorem Silent.bind {m : Run α} {k : α → Run β} (hm : Silent m) (hk : ∀ a, Silent (k a)) :
    Silent (m >>= k) :=
  Keeps.bindExcept hm hk

theorem Shows.silent {m : Run α} (h : Shows m) : Silent m := by
  intro c
  exact (h c).mono fun _ _ hc' => (Prod.mk.inj hc').2

theorem modify_shows {f : Console → Console} (h : ∀ c, (f c).trace = c.trace) :
    Shows (modify f : Run Unit) := h

theorem print_shows (text : String) : Shows (print text) := fun _ => rfl

theorem line_shows (text : String) : Shows (line text) := fun _ => rfl

theorem json_shows (v : Json) : Shows (json v) := fun _ => rfl

theorem log_shows (entry : Log.Entry) : Shows (log entry) := fun _ => rfl

theorem screen_shows (f : Screen → Screen) : Shows (screen f) := fun _ => rfl

theorem now_shows {e : Setup} : Shows (liftM e.now : Run ClockTime) := fun _ => rfl

theorem lift_shows (result : Except Failure α) : Shows (liftM result : Run α) := by
  cases result with
  | ok a => exact .pure a
  | error failure => exact .throw failure

theorem demand_shows (a : Option α) : Shows (demand a) := by
  cases a with
  | some a => exact .pure a
  | none => exact .throw _

theorem auth_shows (result : Except LoginError α) : Shows (auth result) := by
  cases result with
  | ok a => exact .pure a
  | error cause => exact .throw _

theorem answered_shows (result : Except BackendError α) : Shows (answered result) := by
  cases result with
  | ok a => exact .pure a
  | error cause => exact .throw _

theorem readFiles_shows (read : Files → Except FileError α) : Shows (readFiles read) := by
  unfold readFiles
  refine .get fun c => ?_
  cases read c.files with
  | ok a => exact .pure a
  | error cause => exact .throw _

theorem changeFiles_silent (change : Files → Except FileError Files) :
    Silent (changeFiles change) := by
  unfold changeFiles
  exact (readFiles_shows change).silent.bind fun _ _ => rfl

theorem table_shows (t : Table) : Shows (table t) :=
  (demand_shows _).bind fun text => print_shows text

theorem value_shows (e : Setup) (v : Json) : Shows (value e v) := by
  unfold value
  split
  · exact json_shows v
  · exact (demand_shows _).bind fun text => print_shows _

/-! ## Steps that send something -/

variable {e : Setup}

theorem call_heeds {m : Call Console α} (h : e.Heeds m.run) : e.Heeds (call m).run :=
  h.bind fun _ => .pure _

/-- What is done after a call that was accepted may change the files, if nothing more is sent. -/
theorem call_ends {m : Call Console α} {k : α → Run β}
    (hm : ∀ c, After m.run c fun r c' =>
      Lasting e.Gone Console.deeds c c' ∧ ∀ a, r = .ok a → Accepted Console.deeds c c')
    (hk : ∀ a, Silent (k a)) : e.Ends (call m >>= k).run := by
  intro c
  have hcall : After (call m).run c fun r c' =>
      Final e.Gone Console.deeds c c' ∧ ∀ a, r = .ok a → Accepted Console.deeds c c' := by
    refine (hm c).bind fun r c' hc' => After.pure_iff.2 ⟨hc'.1.1, fun a ha => ?_⟩
    cases r with
    | ok a => exact hc'.2 a rfl
    | error cause => cases ha
  refine hcall.bindExcept (fun a c' hc' => ?_) fun _ _ h => h.1
  exact (hk a c').mono fun _ _ hd => ((hc'.2 a rfl).trans (.of_eq hd)).final

theorem flow_heeds {op : LoginFlow → StateM Console (LoginStep α)} (h : ∀ f, e.Heeds (op f)) :
    e.Heeds (flow op).run := fun c => h c.flow c

end Run

/-! ## Keys -/

namespace KeyCommand

open Run

variable {e : Setup}

theorem fetch_heeds (v : Visibility) (ts : KeyTables) : e.Heeds (ts.fetch e.client.keys v) := by
  unfold KeyTables.fetch KeyTable.fetch
  refine Setup.Heeds.bind (Setup.Heeds.bind (Setup.json_heeds _ _) fun r => ?_) fun step => .pure _
  split
  · exact .pure _
  · exact .pure _

theorem fetchBoth_heeds (ts : KeyTables) : e.Heeds (ts.fetchBoth e.client.keys) := by
  unfold KeyTables.fetchBoth
  refine (fetch_heeds .pub ts).bind fun step => ?_
  split
  · exact .pure _
  · exact (fetch_heeds .priv _).bind fun _ => .pure _

theorem putScope_shows (v : Visibility) : Shows (putScope v) := by
  unfold putScope
  refine .get fun c => (line_shows _).bind fun _ => (demand_shows _).bind fun report => ?_
  split
  · exact print_shows _
  · exact (table_shows _).bind fun _ => print_shows _

theorem runList_heeds (visibility : Option Visibility) (filter : Listing) :
    e.Heeds (runList e visibility filter).run := by
  unfold runList
  refine (modify_shows fun _ => by rfl).heeds.bindExcept fun _ => get_heeds fun c => ?_
  dsimp only
  split
  case' h_1 v =>
    refine (fetch_heeds v _).bindLift fun step => (Setup.Heeds.pure _).bindExcept fun step => ?_
  case' h_2 => refine (fetchBoth_heeds _).bindLift fun step => ?_
  all_goals
    refine (modify_shows fun _ => by rfl).heeds.bindExcept
      fun _ => (answered_shows _).heeds.bindExcept fun _ => ?_
    split
    · exact (json_shows _).heeds
    · exact (Shows.forM putScope_shows _).heeds

theorem putKey_shows (k : KeyRecord) {text : Run Unit} (h : Shows text) :
    Shows (putKey e k text) := by
  unfold putKey
  split
  · exact json_shows _
  · exact h

theorem printMade_shows (done : String) (k : KeyRecord) : Shows (printMade e done k) :=
  putKey_shows k (line_shows _)

theorem printPart_shows (content : String) : Shows (printPart content) := by
  unfold printPart
  split
  · exact .pure _
  · exact line_shows _

theorem runCheckName_heeds (name : String) (visibility : Visibility) :
    e.Heeds (runCheckName e name visibility).run := by
  unfold runCheckName
  refine (call_heeds (Setup.isNameFree_heeds _ _)).bindExcept fun free => Shows.heeds ?_
  split
  · exact json_shows _
  · exact line_shows _

theorem writePart_silent (dir name content : String) : Silent (writePart dir name content) := by
  unfold writePart
  split
  · exact (Shows.pure _).silent
  · exact (changeFiles_silent _).bind fun _ => (line_shows _).silent

/-- The material of a key is written when the only request of the command was answered. -/
theorem runExport_ends (id : Int32) (out : Option String) : e.Ends (runExport e id out).run := by
  unfold runExport
  refine call_ends (Setup.json_lasting _ _) fun exported => ?_
  cases out with
  | some dir =>
    refine (changeFiles_silent _).bind fun _ => (writePart_silent _ _ _).bind fun _ => ?_
    exact (writePart_silent _ _ _).bind fun _ => writePart_silent _ _ _
  | none =>
    refine Shows.silent ?_
    dsimp only
    split
    · exact json_shows _
    · exact Shows.forM printPart_shows _

theorem run_ends (command : KeyCommand) : e.Ends (command.run e).run := by
  cases command with
  | list visibility filter => exact (runList_heeds visibility filter).ends
  | details id =>
    refine ((call_heeds (Setup.json_heeds _ _)).bindExcept fun key => Shows.heeds ?_).ends
    exact putKey_shows key ((demand_shows _).bind fun report => table_shows report)
  | create draft parentId days =>
    refine (now_shows.heeds.bindExcept fun now => (lift_shows _).heeds.bindExcept
      fun request => ?_).ends
    exact (call_heeds (Setup.createKey_heeds request)).bindExcept
      fun key => (printMade_shows _ key).heeds
  | importKey draft files =>
    refine ((readFiles_shows _).heeds.bindExcept fun request => ?_).ends
    exact (call_heeds (Setup.importKey_heeds request)).bindExcept
      fun key => (printMade_shows _ key).heeds
  | act id action =>
    exact ((call_heeds (Setup.keyOperation_heeds id action)).bindExcept
      fun _ => (line_shows _).heeds).ends
  | exportKey id out => exact runExport_ends id out
  | checkName name visibility => exact (runCheckName_heeds name visibility).ends

end KeyCommand

/-! ## Certificates and cooperators -/

namespace CertificateCommand

open Run

variable {e : Setup}

theorem free_heeds (spec : CallPlan) :
    e.Heeds (do value e (← call (e.client.free spec)) : Run Unit).run :=
  (call_heeds (Setup.json_heeds _ _)).bindExcept fun v => (value_shows e v).heeds

/-- The file is written when the only request of the command was answered. -/
theorem runExport_ends (params : Parameters) (out : String) :
    e.Ends (runExport e params out).run := by
  unfold runExport
  refine call_ends (fun c => ?_) fun bytes => (changeFiles_silent _).bind
    fun _ => (line_shows _).silent
  unfold Client.certExport
  refine (Setup.request_lasting _ c).bindExcept (fun payload c' hc' => ?_)
    fun cause c' hc' => ⟨hc'.1, fun a ha => ?_⟩
  · exact After.pure_iff.2 ⟨hc'.1, fun _ _ => hc'.2 payload rfl⟩
  · cases ha

theorem run_ends (command : CertificateCommand) : e.Ends (command.run e).run := by
  cases command with
  | exportCsv params out => exact runExport_ends params out
  | search params => exact (free_heeds _).ends
  | edit params => exact (free_heeds _).ends
  | uploadInfo params => exact (free_heeds _).ends
  | delete params => exact (free_heeds _).ends

end CertificateCommand

namespace CooperatorCommand

open Run

variable {e : Setup}

theorem readText_shows (file : String) : Shows (readText e file) := by
  unfold readText
  split
  · split
    · exact .pure _
    · exact .throw _
  · exact readFiles_shows _

theorem readDocument_shows (file : String) : Shows (readDocument e file) := by
  unfold readDocument
  refine (readText_shows file).bind fun text => ?_
  split
  · exact .pure _
  · exact .throw _

theorem showLogo_shows (v : Json) : Shows (showLogo v) := by
  unfold showLogo
  split
  · exact screen_shows _
  · exact .pure _

theorem runSave_heeds (file : String) : e.Heeds (runSave e file).run := by
  unfold runSave
  refine (readDocument_shows file).heeds.bindExcept fun doc => ?_
  split
  · exact (call_heeds (Setup.cooperatorSave_heeds doc)).bindExcept fun v => (value_shows e v).heeds
  · exact (Shows.throw _).heeds

theorem runDetails_heeds (params : Parameters) : e.Heeds (runDetails e params).run := by
  unfold runDetails
  refine (call_heeds (Setup.json_heeds _ _)).bindExcept fun answer => Shows.heeds ?_
  refine (showLogo_shows answer).bind fun _ => (value_shows e answer).bind fun _ => .get fun c => ?_
  split
  · exact line_shows _
  · exact .pure _

theorem runUploadLogo_heeds (file : String) (mime : Option String) :
    e.Heeds (runUploadLogo e file mime).run := by
  unfold runUploadLogo
  refine (readFiles_shows _).heeds.bindExcept
    fun bytes => (call_heeds (Setup.json_heeds _ _)).bindExcept fun v => ?_
  exact ((showLogo_shows v).bind fun _ => value_shows e v).heeds

theorem run_heeds (command : CooperatorCommand) : e.Heeds (command.run e).run := by
  cases command with
  | save file => exact runSave_heeds file
  | details params => exact runDetails_heeds params
  | uploadLogo file mime => exact runUploadLogo_heeds file mime
  | list params => exact CertificateCommand.free_heeds _
  | categories params => exact CertificateCommand.free_heeds _
  | types => exact CertificateCommand.free_heeds _
  | delete params => exact CertificateCommand.free_heeds _

end CooperatorCommand

/-! ## API tokens and statistics -/

namespace TokenCommand

open Run

variable {e : Setup}

theorem refresh_heeds (l : TokenList) : e.Heeds (l.refresh e.client.tokens) := by
  unfold TokenList.refresh
  refine Setup.listTokens_heeds.bind fun r => ?_
  split
  · exact .pure _
  · exact .pure _

theorem create_heeds (description : String) (l : TokenList) :
    e.Heeds (TokenList.create e.client.tokens description l) := by
  unfold TokenList.create
  refine (Setup.createToken_heeds _).bind fun r => ?_
  split
  · exact .pure _
  · exact (refresh_heeds _).bind fun _ => .pure _

theorem delete_heeds (id : Int32) (l : TokenList) :
    e.Heeds (TokenList.delete e.client.tokens id l) := by
  unfold TokenList.delete
  refine (Setup.deleteToken_heeds id).bind fun r => ?_
  split
  · exact .pure _
  · exact refresh_heeds l

theorem withList_heeds {op : TokenList → StateM Console (Except BackendError α × TokenList)}
    (h : ∀ l, e.Heeds (op l)) : e.Heeds (withList op).run := by
  unfold withList
  refine get_heeds fun c => (h c.tokens).bindLift fun step => ?_
  exact (modify_shows fun _ => by rfl).heeds.bindExcept fun _ => (answered_shows _).heeds

theorem printList_shows : Shows (printList e) := by
  unfold printList
  refine .get fun c => ?_
  dsimp only
  split
  · exact json_shows _
  · split
    · exact line_shows _
    · exact (demand_shows _).bind fun report => table_shows report

theorem printCreated_shows (t : ApiToken) : Shows (printCreated e t) := by
  unfold printCreated
  split
  · exact json_shows _
  · exact (line_shows _).bind fun _ => (line_shows _).bind fun _ => line_shows _

theorem run_heeds (command : TokenCommand) : e.Heeds (command.run e).run := by
  cases command with
  | list => exact (withList_heeds refresh_heeds).bindExcept fun _ => printList_shows.heeds
  | create description =>
    exact (withList_heeds (create_heeds description)).bindExcept
      fun t => (printCreated_shows t).heeds
  | delete id =>
    refine (withList_heeds (delete_heeds id)).bindExcept fun _ => ?_
    exact ((line_shows _).bind fun _ => printList_shows).heeds

end TokenCommand

namespace StatisticsCommand

open Run

variable {e : Setup}

theorem fetchCounts_heeds (s : Statistics) : e.Heeds (s.fetchCounts e.client.statistics) := by
  unfold Statistics.fetchCounts
  refine (Setup.json_heeds _ _).bind fun r => ?_
  split
  · exact .pure _
  · exact .pure _

theorem fetchIncrease_heeds (s : Statistics) : e.Heeds (s.fetchIncrease e.client.statistics) := by
  unfold Statistics.fetchIncrease
  refine (Setup.json_heeds _ _).bind fun r => ?_
  split
  · exact .pure _
  · exact .pure _

theorem withStatistics_heeds
    {op : Statistics → StateM Console (Except BackendError Unit × Statistics)}
    (h : ∀ s, e.Heeds (op s)) : e.Heeds (withStatistics op).run := by
  unfold withStatistics
  refine get_heeds fun c => (h c.statistics).bindLift fun step => ?_
  refine (modify_shows fun _ => by rfl).heeds.bindExcept
    fun _ => (answered_shows _).heeds.bindExcept fun _ => ?_
  exact .pure _

theorem printCounts_shows (v : Json) : Shows (printCounts v) := by
  unfold printCounts
  dsimp only
  split
  · exact (demand_shows _).bind fun text => line_shows _
  · exact (demand_shows _).bind fun report => table_shows report

theorem runTypes_heeds : e.Heeds (runTypes e).run := by
  unfold runTypes
  refine (withStatistics_heeds fetchCounts_heeds).bindExcept fun s => Shows.heeds ?_
  split
  · split
    · exact json_shows _
    · exact printCounts_shows _
  · exact .pure _

theorem runGrowth_heeds (hours : Int) (growthStep : GrowthStep) :
    e.Heeds (runGrowth e hours growthStep).run := by
  unfold runGrowth
  refine now_shows.heeds.bindExcept fun now => ?_
  split
  · exact (Shows.throw _).heeds
  · refine (modify_shows fun _ => by rfl).heeds.bindExcept fun _ => ?_
    refine (withStatistics_heeds fetchIncrease_heeds).bindExcept fun s => Shows.heeds ?_
    split
    · exact .pure _
    · split
      · exact json_shows _
      · refine (demand_shows _).bind fun start => (demand_shows _).bind fun stop => ?_
        exact (line_shows _).bind fun _ => printCounts_shows _

theorem run_heeds (command : StatisticsCommand) : e.Heeds (command.run e).run := by
  cases command with
  | types => exact runTypes_heeds
  | growth hours growthStep => exact runGrowth_heeds hours growthStep

end StatisticsCommand

end SigningConsole
