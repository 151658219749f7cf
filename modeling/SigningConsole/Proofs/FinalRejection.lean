import SigningConsole.Console.Program
import SigningConsole.Proofs.HeededRejection
/-!
A rejection is final for a command: whatever is done and answered after it, there is no
session file at its end.

A login saves its session before it makes a call with it, or after the exchange of its code was
accepted. From there on everything heeds rejections: who is logged in is asked for, and the page of
a route may be, though the answer to the first of these was passed over.
`Surroundings.rejection_is_final` says it of every call of the program.
-/

namespace SigningConsole

open Calendar Text

variable {α : Type}

namespace Run

variable {e : Setup}

/-! ## Login and logout -/

theorem reload_heeds (now : ClockTime) (f : LoginFlow) : e.Heeds (f.reload e.store now) := by
  intro c
  have hd : Keeps Console.deeds (e.store.current now).run := e.store_quiet.current now
  have hgone : After (e.store.current now).run c fun _ c' => e.Gone c → e.Gone c' := fun hc =>
    (e.adapter_buries.store.current now hc).mono fun _ _ h => h.1
  unfold LoginFlow.reload
  split
  · exact .refl c
  · refine ((hd c).and hgone).bind fun r c' hc' => ?_
    have hlasting : Lasting e.Gone Console.deeds c c' := .of_eq hc'.1 hc'.2
    cases r with
    | ok s => exact hlasting
    | error cause => exact hlasting

theorem invalidate_heeds (f : LoginFlow) : e.Heeds (f.invalidate e.store) := by
  intro c
  unfold LoginFlow.invalidate
  refine ((e.store_quiet.clear c).and (e.adapter_buries.store.clear c)).bind fun r c' hc' => ?_
  have hlasting : Lasting e.Gone Console.deeds c c' := .of_eq hc'.1 fun _ => hc'.2
  cases r with
  | ok _ => exact hlasting
  | error cause => exact hlasting

theorem flowLogout_heeds (f : LoginFlow) : e.Heeds (f.logout e.store e.client.auth) := by
  unfold LoginFlow.logout
  split
  · refine Setup.logout_heeds.bind fun answer => (invalidate_heeds f).bind fun step => ?_
    split
    · exact .pure _
    · exact .pure _
  · exact .pure _

/-- A code that is rejected leaves no session, and the session of one that is not is saved before
anything else is sent. -/
theorem complete_ends (now : ClockTime) (url : Url) (f : LoginFlow) :
    e.Ends (f.complete e.store e.client.auth now url) := by
  have hexchange : ∀ f : LoginFlow, e.Ends (f.exchange e.store e.client.auth now) := by
    intro f c
    unfold LoginFlow.exchange
    split
    · refine (Adapter.exchange_lasting e.adapter_buries e.adapter_does _ c).bind fun r c' hc' => ?_
      obtain ⟨hlasting, haccepted⟩ := hc'
      cases r with
      | ok grant =>
        refine (LoginFlow.keep_keeps e.store_quiet now _ _ c').mono fun _ c'' hd => ?_
        exact ((haccepted grant rfl).trans (.of_eq hd)).final
      | error cause => exact hlasting.1
    · exact (Lasting.refl c).1
  unfold LoginFlow.complete
  split
  · exact hexchange _
  · exact (Setup.Heeds.pure _).ends

theorem flow_silent {op : LoginFlow → StateM Console (LoginStep α)}
    (h : ∀ f, Keeps Console.deeds (op f)) :
    Keeps Console.deeds (flow op).run := fun c => h c.flow c

theorem flow_ends {op : LoginFlow → StateM Console (LoginStep α)} (h : ∀ f, e.Ends (op f)) :
    e.Ends (flow op).run := fun c => h c.flow c

theorem identify_heeds : e.Heeds (identify e).run := by
  refine (call_heeds (Setup.json_heeds _ _)).bindExcept fun me => ?_
  exact ((line_shows _).bind fun _ => screen_shows _).heeds

/-- A session that is at hand is saved before anything is sent. -/
theorem adopted_ends (s : Session) (entry : Log.Entry) :
    e.Ends (do
      let _ ← auth (← flow (LoginFlow.adopt e.store (← e.now) s))
      log entry
      identify e : Run Unit).run := by
  refine .of_silent now_shows.silent fun now => ?_
  refine .of_silent (flow_silent (LoginFlow.adopt_keeps e.store_quiet now s))
    fun result => Setup.Heeds.ends ?_
  exact (auth_shows result).heeds.bindExcept fun _ => (log_shows entry).heeds.bindExcept
    fun _ => identify_heeds

theorem loginWithCookie_ends (header : String) : e.Ends (loginWithCookie e header).run := by
  unfold loginWithCookie
  cases Session.ofCookieHeader? header with
  | none => exact (Shows.throw _).heeds.ends
  | some s => exact adopted_ends s _

theorem logExchange_shows (result : Except LoginError Session) : Shows (logExchange result) := by
  unfold logExchange
  split
  · exact log_shows _
  · exact log_shows _
  · exact .pure _

theorem loginWithCallback_ends (url : Url) : e.Ends (loginWithCallback e url).run := by
  unfold loginWithCallback
  refine .of_silent (screen_shows _).silent fun _ => .of_silent now_shows.silent fun now => ?_
  refine (flow_ends (complete_ends now url)).bindExcept fun result => ?_
  refine (logExchange_shows result).heeds.bindExcept fun _ => ?_
  cases result with
  | error cause => exact ((screen_shows _).bind fun _ => .throw _).heeds
  | ok s =>
    -- a rejection of the identity request is passed over, but the session is gone
    intro c
    refine (Setup.json_heeds Identity.decode Endpoint.userInfo c).bindLift fun answer c' hc' => ?_
    refine (((screen_shows _).bind fun _ => line_shows _).heeds c').mono fun _ _ h => hc'.trans h

theorem login_ends (way : LoginWay) : e.Ends (login e way).run := by
  cases way with
  | apiKey key => exact adopted_ends (.ofApiKey key) _
  | cookie header => exact loginWithCookie_ends header
  | callback url => exact loginWithCallback_ends url
  | ask =>
    exact ((screen_shows _).bind fun _ => (line_shows _).bind fun _ => line_shows _).heeds.ends

theorem logout_heeds : e.Heeds (logout e).run := by
  unfold logout
  refine get_heeds fun c => ?_
  split
  · refine (flow_heeds flowLogout_heeds).bindExcept fun result => Shows.heeds ?_
    refine (screen_shows _).bind fun _ => ?_
    dsimp only
    split
    case' h_2 => refine (log_shows _).bind fun _ => ?_
    all_goals
      refine (line_shows _).bind fun _ => ?_
      split
      · exact line_shows _
      · exact .pure _
  · exact (line_shows _).heeds

theorem whoami_heeds (cookie permissions : Bool) : e.Heeds (whoami e cookie permissions).run := by
  unfold whoami
  refine (call_heeds (Setup.json_heeds _ _)).bindExcept fun me => (screen_shows _).heeds.bindExcept
    fun _ => ?_
  dsimp only
  split
  case' isTrue => refine ((call_heeds (Setup.json_heeds _ _)).map some).bindExcept fun granted => ?_
  case' isFalse => refine (Setup.Heeds.pure _).bindExcept fun granted => ?_
  all_goals
    refine now_shows.heeds.bindExcept fun now => (flow_heeds (reload_heeds now)).bindExcept
      fun result => ?_
    refine (auth_shows result).heeds.bindExcept fun session => Shows.heeds ?_
    split
    · exact json_shows _
    · refine (line_shows _).bind fun _ => ?_
      split
      case' h_1 => refine (line_shows _).bind fun _ => ?_
      all_goals
        split
        · exact .pure _
        · refine now_shows.bind fun now => (line_shows _).bind fun _ => ?_
          split
          · exact now_shows.bind fun now => line_shows _
          · exact .pure _

/-! ## Pages -/

theorem page_heeds (path : String) : e.Heeds (match Route.ofPath? path e.settings.variant with
    | some .keyList => KeyCommand.runList e none {}
    | some .apiTokens => TokenCommand.run e .list
    | none => throw (.noPage path e.settings.variant) : Run Unit).run := by
  split
  · exact KeyCommand.runList_heeds none {}
  · exact TokenCommand.run_heeds .list
  · exact (Shows.throw _).heeds

/-- A page may be asked for after a login whose session was rejected. -/
theorem visit_ends (path : String) : e.Ends (visit e path).run := by
  unfold visit
  dsimp only
  split
  · exact ((Setup.Heeds.pure _).bindExcept page_heeds).ends
  · split
    · exact (loginWithCallback_ends _).bindExcept
        fun _ => (Setup.Heeds.pure _).bindExcept page_heeds
    · exact ((Setup.Heeds.pure _).bindExcept page_heeds).ends

end Run

/-! ## Commands -/

namespace Command

variable {e : Setup}

theorem run_ends (command : Command) : e.Ends (command.run e).run := by
  cases command with
  | version => exact (Run.print_shows _).heeds.ends
  | login way => exact Run.login_ends way
  | logout => exact Run.logout_heeds.ends
  | whoami cookie permissions => exact (Run.whoami_heeds cookie permissions).ends
  | visit path => exact Run.visit_ends path
  | keys command => exact KeyCommand.run_ends command
  | tokens command => exact (TokenCommand.run_heeds command).ends
  | cert command => exact CertificateCommand.run_ends command
  | cooperator command => exact (CooperatorCommand.run_heeds command).ends
  | statistics command => exact (StatisticsCommand.run_heeds command).ends

theorem giveUp_heeds : e.Heeds (giveUp e).run := by
  unfold giveUp
  refine (Run.flow_heeds Run.invalidate_heeds).bindExcept fun result => ?_
  exact (Run.auth_shows result).heeds.bindExcept fun _ => (Run.log_shows _).heeds

theorem runToEnd_ends (command : Command) : e.Ends (command.runToEnd e) := by
  intro c
  unfold runToEnd
  refine (run_ends command c).bind fun r c' hc' => ?_
  split
  · refine (giveUp_heeds c').bind fun given c'' hc'' => ?_
    have hfinal := hc'.trans_lasting hc''
    cases given with
    | ok _ => exact hfinal
    | error cause => exact hfinal
  · exact hc'

end Command

/-! ## Calls of the program -/

/-- A console starts with nothing sent. -/
theorem Setup.start_traffic {e : Setup} {files files' : Files} {c : Console}
    (h : e.start files = (.ok c, files')) :
    c.traffic = {} := by
  unfold start at h
  split at h
  · cases h
  · split at h
    · cases h
    · cases h
      rfl

/-- The settings and the traffic of a call that finished. -/
def Conclusion.finished? : Conclusion → Option (Settings × Traffic)
  | finished settings _ console => some (settings, console.traffic)
  | _ => none

namespace Surroundings

theorem start_gone {s : Surroundings} {settings settings' : Settings} {json : Bool}
    {command : Command} {result : Except Failure Unit} {console : Console}
    (h : s.start settings json command = .finished settings' result console)
    (hx : ∃ x ∈ console.traffic.exchanges, x.Rejects) :
    SessionStore.NoFile (settings'.sessionFile.getD s.defaultSession) console.files := by
  unfold start at h
  dsimp only at h
  split at h
  · cases h
  · rename_i c files hstart
    cases h
    let e := s.setup settings json
    have hends : e.Ends (command.runToEnd e) := Command.runToEnd_ends command
    obtain ⟨sent, hsent, hgone⟩ := hends c
    have hbefore : c.deeds.exchanges = [] := by
      unfold Console.deeds
      rw [Setup.start_traffic hstart]
      rfl
    rw [hbefore, List.nil_append] at hsent
    refine hgone ?_
    rw [← hsent]
    exact hx

/-- Whatever a command does, whatever it finds in the session file and whatever the backend answers:
if one of the answers was a rejection, there is no session file when the command has ended. -/
theorem rejection_is_final (s : Surroundings) (args : List String) {settings : Settings}
    {result : Except Failure Unit} {console : Console}
    (h : s.call args = .finished settings result console)
    (hx : ∃ x ∈ console.traffic.exchanges, x.Rejects) (bytes : List UInt8) (ownerOnly : Bool) :
    console.files.lookup (settings.sessionFile.getD s.defaultSession) ≠
      .ok (.file bytes ownerOnly) := by
  have hgone : SessionStore.NoFile (settings.sessionFile.getD s.defaultSession) console.files := by
    unfold call at h
    split at h
    · cases h
    · unfold runLine at h
      split at h
      · cases h
      · split at h
        · cases h
        · exact start_gone h hx
  exact hgone.lookup_ne bytes ownerOnly

/-- A login by a code, whose session is rejected when it is asked who is logged in, goes on to the
page that it leads to. The cookies of that page's answer bring no session back. -/
theorem rejected_login_leaves_no_file :
    let backend : Backend := .scripted
      [.ok { status := 302, headers := [("Set-Cookie", Utf8.ofString "signatrust=sess")] },
        .ok { status := 200, headers := [("Set-Cookie", Utf8.ofString "Xsrf-Token=t")] },
        .ok { status := 401 },
        .ok { status := 200, headers := [("Set-Cookie", Utf8.ofString "signatrust=new")] }]
    let clock : Clock := fun n => (ClockTime.of? (20 * n) 0).getD default
    let s : Surroundings := ⟨∅, ∅, [], clock, clock, "session.json", backend⟩
    ∃ settings result console,
      s.call ["open", "http://localhost/?code=c0de"] = .finished settings result console ∧
        console.traffic.exchanges.map (fun x => (x.purpose, x.status?)) =
          [(.described, some 302), (.priming, some 200), (.described, some 401),
            (.described, some 200)] ∧
        ∀ bytes ownerOnly, console.files.lookup "session.json" ≠ .ok (.file bytes ownerOnly) := by
  intro backend clock s
  have hrun : (s.call ["open", "http://localhost/?code=c0de"]).finished?.map
      (fun c => (c.1.sessionFile, c.2.exchanges.map fun x => (x.purpose, x.status?))) =
      some (none, [(.described, some 302), (.priming, some 200), (.described, some 401),
        (.described, some 200)]) := by
    decide +kernel
  cases hc : s.call ["open", "http://localhost/?code=c0de"] with
  | finished settings result console =>
    rw [hc] at hrun
    obtain ⟨hpath, hsent⟩ := Prod.mk.inj (Option.some.inj hrun)
    refine ⟨settings, result, console, rfl, hsent, fun bytes ownerOnly => ?_⟩
    have hx : ∃ x ∈ console.traffic.exchanges, x.Rejects := by
      have hmem : (Purpose.described, some 401) ∈ console.traffic.exchanges.map
          fun x => (x.purpose, x.status?) := by
        rw [hsent]
        decide
      obtain ⟨x, hx, heq⟩ := List.mem_map.1 hmem
      exact ⟨x, hx, Prod.mk.inj heq⟩
    have hgone := rejection_is_final s _ hc hx bytes ownerOnly
    rw [hpath] at hgone
    exact hgone
  | _ =>
    rw [hc] at hrun
    cases hrun

end Surroundings

end SigningConsole
