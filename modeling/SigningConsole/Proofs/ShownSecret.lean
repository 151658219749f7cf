import SigningConsole.Console.Program
import SigningConsole.Proofs.Rejection
import SigningConsole.Proofs.WireRecords
/-!
Whether the secret of a new API token is shown to the operator.

The backend tells the secret once, in its answer to the call that creates the token. The command
fetches the list of tokens before it prints anything, and prints nothing when that fails. No
call prints anything by itself (`Adapter.request_keeps`), so that the secret is shown just when
the list was fetched.
-/

namespace SigningConsole

open Calendar Json Text

variable {σ α β : Type}

/-! ## What a request leaves alone -/

namespace Adapter

variable {a : Adapter σ} {view : σ → β}

theorem absorb_keeps (hq : a.store.Quiet view) (hc : a.ClearsOnly view id) (s : Session)
    (answer : Answer) :
    Keeps view (a.absorb s answer) := by
  intro w
  unfold absorb
  generalize s.absorbAll answer.setCookies = absorbed
  obtain ⟨s', changed⟩ := absorbed
  cases changed with
  | false => exact rfl
  | true =>
    refine (hq.save s' w).bind fun r w' hw' => ?_
    cases r with
    | ok _ => exact hw'
    | error e => exact (hc.log _ w').bind fun _ w'' hw'' => hw''.trans hw'

theorem session?_keeps (hq : a.store.Quiet view) (hc : a.ClearsOnly view id) (now : Instant) :
    Keeps view (a.session? now) := by
  have hprime : ∀ s, Keeps view (a.prime s) := by
    intro s w
    unfold prime
    refine (deliver_keeps hc.send _ _ w).bind fun outcome w' hw' => ?_
    cases outcome with
    | ok answer => exact (absorb_keeps hq hc s answer w').mono fun _ _ h => h.trans hw'
    | error e => exact (hc.log _ w').bind fun _ w'' hw'' => hw''.trans hw'
  intro w
  unfold session?
  refine (hq.current now w).bind fun r w' hw' => ?_
  cases r with
  | error e => exact (hc.log _ w').bind fun _ w'' hw'' => hw''.trans hw'
  | ok found =>
    cases found with
    | none => exact hw'
    | some s =>
      dsimp only
      split
      · exact After.map_iff.2 ((hprime s w').mono fun _ _ h => h.trans hw')
      · exact hw'

/-- A request leaves alone what neither the store nor the rest of the adapter touches. -/
theorem request_keeps (hq : a.store.Quiet view) (hc : a.ClearsOnly view id) (now : Instant)
    (spec : CallPlan) :
    Keeps view (a.request now spec).run := by
  intro w
  unfold request
  refine (session?_keeps hq hc now w).bindLift fun s w' hw' => ?_
  have hperform := perform_view hc s spec w'
  simp only [unlessRejected_id] at hperform
  refine hperform.bindExcept (fun answer w'' hp => ?_) fun e w'' hp => Eq.trans hp hw'
  · have hview : view w'' = view w := Eq.trans hp hw'
    have hconclude : Keeps view (a.conclude s answer) := by
      cases s with
      | none => exact .pure _
      | some s => exact absorb_keeps hq hc s answer
    exact (hconclude w'').bindLift fun _ w₃ h₃ => Eq.trans h₃ hview

theorem json_keeps (hq : a.store.Quiet view) (hc : a.ClearsOnly view id) (now : Instant)
    (d : Decoder α) (spec : CallPlan) : Keeps view (a.json now d spec).run := by
  unfold json
  exact (request_keeps hq hc now spec).bindExcept fun _ => .pure _

end Adapter

/-- Nor does a call touch it, if reading the clock does not. -/
theorem Client.json_keeps {c : Client σ} {view : σ → β} (hq : c.adapter.store.Quiet view)
    (hc : c.adapter.ClearsOnly view id) (hn : Keeps view c.now) (d : Decoder α) (spec : CallPlan) :
    Keeps view (c.json d spec).run := by
  unfold json
  exact hn.bindLift fun now => Adapter.json_keeps hq hc now d spec

namespace Setup

variable (e : Setup)

theorem store_prints_nothing : e.store.Quiet Console.output :=
  SessionStore.onPart_quiet _ fun _ _ => rfl

theorem adapter_prints_nothing : e.client.adapter.ClearsOnly Console.output id :=
  ⟨fun _ => rfl, fun _ _ _ => rfl, fun _ => rfl, fun _ _ => rfl, fun _ _ => rfl⟩

theorem json_prints_nothing (d : Decoder α) (spec : CallPlan) :
    Keeps Console.output (e.client.json d spec).run :=
  Client.json_keeps e.store_prints_nothing e.adapter_prints_nothing (fun _ => rfl) d spec

theorem createToken_prints_nothing (r : NewToken) :
    Keeps Console.output (e.client.tokens.createToken r).run :=
  (e.json_prints_nothing _ _).bindExcept fun _ => Keeps.bindExcept (fun _ => rfl) fun _ => .pure _

theorem listTokens_prints_nothing : Keeps Console.output e.client.tokens.listTokens.run :=
  (e.json_prints_nothing _ _).bindExcept fun _ => .pure _

end Setup

/-! ## The text of a token -/

/-- The text of a value on lines of its own is read as the value. -/
theorem Json.parse?_prettyLine {v : Json} (h : Parser.Readable Parser.maxDepth v) :
    parse? (v.pretty ++ "\n") = some v := by
  have hend : Parser.EndsNumeral ['\n'] := by simp [Parser.EndsNumeral]
  have hread : Parser.exact (v.prettyChars 0 ++ ['\n']) = some (v, ['\n']) :=
    Parser.value_prettyChars h 0 hend
  have htext : (v.pretty ++ "\n").toList = v.prettyChars 0 ++ ['\n'] := by
    unfold pretty
    rw [String.toList_append, String.toList_ofList]
    rfl
  unfold parse? Parser.document
  rw [htext, ((h.opens 0).append ['\n']).skip_eq, hread]
  rfl

namespace ApiToken

/-- What is printed shows the token's secret: it stands on a line of its own, or what is printed is
a document that reads as the token. -/
def ShownBy (t : ApiToken) (json : Bool) (printed : String) : Prop :=
  if json then Json.read decode printed = .ok t
  else ∃ before after, printed = before ++ "\n" ++ t.token ++ "\n" ++ after

/-- A command succeeds and what it prints shows the token, or it fails and prints nothing. -/
def ShownIf (t : ApiToken) (shown json : Bool) (before : String) (result : Except Failure Unit)
    (after : String) :
    Prop :=
  ∃ printed, after = before ++ printed ∧ (shown → result = .ok () ∧ t.ShownBy json printed) ∧
    (¬ shown → result ≠ .ok () ∧ printed = "")

end ApiToken

/-! ## Creating a token -/

namespace TokenCommand

variable {e : Setup} {c c₁ : Console} {t : ApiToken}

theorem printCreated_shows_secret (e : Setup) (t : ApiToken) (c : Console) :
    After (printCreated e t).run c fun r c' =>
      r = .ok () ∧ ∃ printed, c'.output = c.output ++ printed ∧ t.ShownBy e.json printed := by
  unfold printCreated ApiToken.ShownBy
  split
  · refine ⟨rfl, t.toJson.pretty ++ "\n", rfl, ?_⟩
    unfold Json.read
    rw [parse?_prettyLine (ApiToken.writes.readable_toJson t _)]
    show (ApiToken.decode (MemberOrder.written.arrange t.toJson)).mapError _ = _
    rw [ApiToken.writes.decode_arrange]
    rfl
  · let first := "Created API token " ++ intText t.id.toInt ++ " (" ++ t.description ++ ")"
    let last := "Store it now; it cannot be shown again."
    refine ⟨rfl, first ++ "\n" ++ t.token ++ "\n" ++ (last ++ "\n"), ?_, first, last ++ "\n", rfl⟩
    show c.output ++ (first ++ "\n") ++ (t.token ++ "\n") ++ (last ++ "\n") = _
    simp only [String.append_assoc]

end TokenCommand

/-- The token that was created is at hand only if the list could be fetched after it. -/
theorem TokenList.create_of_created {calls : TokenCalls σ} {view : σ → β} {description : String}
    {t : ApiToken} {w w₁ : σ} (hlist : Keeps view calls.listTokens.run) (hview : view w₁ = view w)
    (h : (calls.createToken ⟨description⟩).run.run w = (.ok t, w₁)) (l : TokenList) :
    After (TokenList.create calls description l) w fun step w' =>
      step.1 = (calls.listTokens.run.run w₁).1.map (fun _ => t) ∧ view w' = view w := by
  have hlisted : After calls.listTokens.run w₁ fun r w' =>
      r = (calls.listTokens.run.run w₁).1 ∧ view w' = view w := ⟨rfl, (hlist w₁).trans hview⟩
  have hcreated : After (calls.createToken ⟨description⟩).run w
      fun r w' => r = .ok t ∧ w' = w₁ := by
    unfold After
    rw [h]
    exact ⟨rfl, rfl⟩
  have hrefresh : ∀ l : TokenList, After (l.refresh calls) w₁ fun step w' =>
      step.1 = (calls.listTokens.run.run w₁).1.map (fun _ => ()) ∧ view w' = view w := by
    intro l
    unfold refresh
    refine hlisted.bind fun reply w' hreply => ?_
    obtain ⟨hreply, hview'⟩ := hreply
    rw [← hreply]
    cases reply with
    | ok tokens => exact ⟨rfl, hview'⟩
    | error cause => exact ⟨rfl, hview'⟩
  unfold create
  refine hcreated.bind fun r w' hr => ?_
  obtain ⟨rfl, rfl⟩ := hr
  refine (hrefresh _).bind fun step w'' hstep => ?_
  obtain ⟨hresult, hview'⟩ := hstep
  refine ⟨?_, hview'⟩
  show step.1.map (fun _ => t) = _
  rw [hresult]
  cases (calls.listTokens.run.run w').1 <;> rfl

namespace TokenCommand

variable {e : Setup} {c c₁ : Console} {t : ApiToken}

theorem withList_after {op : TokenList → StateM Console (Except BackendError α × TokenList)}
    {result : Except BackendError α} {output : String}
    (h : After (op c.tokens) c fun step c' => step.1 = result ∧ c'.output = output) :
    After (withList op).run c fun r c' => r = result.mapError Failure.backend ∧
      c'.output = output := by
  have hget : ∀ {k : Console → Run α} {Q : Except Failure α → Console → Prop}, After (k c).run c Q →
      After (MonadState.get >>= k).run c Q := fun h => h
  unfold withList
  refine hget (h.bindLift fun step c' hstep => ?_)
  obtain ⟨rfl, hout⟩ := hstep
  obtain ⟨r, tokens⟩ := step
  cases r with
  | ok a => exact ⟨rfl, hout⟩
  | error cause => exact ⟨rfl, hout⟩

/-- The secret is printed if the list could be fetched after the token was created;
otherwise nothing is. -/
theorem create_after {description : String}
    (h : (e.client.tokens.createToken ⟨description⟩).run.run c = (.ok t, c₁)) :
    After ((TokenCommand.create description).run e).run c fun r c' =>
      t.ShownIf (e.client.tokens.listTokens.run.run c₁).1.isOk e.json c.output r c'.output := by
  have hprinted : c₁.output = c.output := (e.createToken_prints_nothing ⟨description⟩ c).of_run_eq h
  have hcreate := TokenList.create_of_created e.listTokens_prints_nothing hprinted h c.tokens
  unfold TokenCommand.run
  generalize (e.client.tokens.listTokens.run.run c₁).1 = listed at hcreate ⊢
  refine (withList_after hcreate).bindExcept (fun made c' hr => ?_) fun cause c' hr => ?_
  · obtain ⟨hmade, hout⟩ := hr
    cases listed with
    | error cause => cases hmade
    | ok tokens =>
      cases hmade
      refine (printCreated_shows_secret e t c').mono fun r c'' hp => ?_
      obtain ⟨rfl, printed, hprinted, hshown⟩ := hp
      rw [hout] at hprinted
      exact ⟨printed, hprinted, fun _ => ⟨rfl, hshown⟩, fun hl => absurd rfl hl⟩
  · obtain ⟨hcause, hout⟩ := hr
    cases listed with
    | ok tokens => cases hcause
    | error cause =>
      refine ⟨"", hout.trans String.append_empty.symm, fun hl => ?_, fun _ => ⟨fun heq => ?_, rfl⟩⟩
      · cases hl
      · cases heq

end TokenCommand

namespace Command

theorem giveUp_prints_nothing (e : Setup) : Keeps Console.output (giveUp e).run := by
  intro c
  have hflow : After (Run.flow (LoginFlow.invalidate e.store)).run c
      fun r c' => c'.output = c.output := by
    show After (c.flow.invalidate e.store) c fun step c' => c'.output = c.output
    unfold LoginFlow.invalidate
    refine (e.store_prints_nothing.clear c).bind fun r c' hc' => ?_
    cases r with
    | ok _ => exact hc'
    | error cause => exact hc'
  unfold giveUp
  refine hflow.bindExcept (fun result c' hc' => ?_) fun _ _ h => h
  cases result with
  | ok _ => exact hc'
  | error cause => exact hc'

/-- A command that fails prints no more when its session is given up. -/
theorem runToEnd_prints {e : Setup} {c : Console} {command : Command}
    (Q : Except Failure Unit → String → Prop)
    (h : After (command.run e).run c fun r after => Q r after.output)
    (hfails : ∀ cause cause' output, Q (.error cause) output → Q (.error cause') output) :
    After (command.runToEnd e) c fun r after => Q r after.output := by
  unfold runToEnd
  refine h.bind fun r after hr => ?_
  split
  · refine (giveUp_prints_nothing e after).bind fun given after' hout => ?_
    rw [← hout] at hr
    cases given with
    | ok _ => exact hr
    | error cause => exact hfails _ _ _ hr
  · exact hr

/-- Where the backend's answer creates a token, the command shows the secret if the list of tokens
can be fetched after it. If that fails, the command fails and prints nothing at all. -/
theorem secret_shown_iff_listed (e : Setup) (description : String) {c c₁ : Console} {t : ApiToken}
    (h : (e.client.tokens.createToken ⟨description⟩).run.run c = (.ok t, c₁)) :
    let listed := (e.client.tokens.listTokens.run.run c₁).1
    After ((Command.tokens (.create description)).runToEnd e) c fun result after =>
      ∃ printed, after.output = c.output ++ printed ∧
        (listed.isOk → result = .ok () ∧ t.ShownBy e.json printed) ∧
        (¬ listed.isOk → result ≠ .ok () ∧ printed = "") := by
  intro listed
  refine runToEnd_prints (t.ShownIf listed.isOk e.json c.output) (TokenCommand.create_after h) ?_
  rintro cause cause' output ⟨printed, hout, hok, herror⟩
  refine ⟨printed, hout, fun hl => ?_, fun hl => ⟨fun heq => ?_, (herror hl).2⟩⟩
  · cases (hok hl).1
  · cases heq

/-- Where the list can be fetched, what is printed as JSON reads as the token with its secret. -/
theorem secret_shown_as_json :
    let base : Url :=
      ⟨"http", "", none, some (.name "example.com"), none, .segments [""], none, none⟩
    let backend : Backend := .scripted
      [.ok { status := 200, body := .ok (Utf8.ofString "\x7b\"id\":1,\"token\":\"s3cret\"\x7d") },
        .ok { status := 200, body := .ok (Utf8.ofString "[]") }]
    let e : Setup := ⟨{ base, loginUrl := base }, "session.json", default, true, backend, []⟩
    let c : Console :=
      { files := ∅, flow := ⟨.unauthenticated, .untilCleared⟩, keys := .empty .server
        statistics := { window := ⟨default, default, .day⟩ } }
    let t : ApiToken := ⟨1, 0, "s3cret", "", "", ""⟩
    let created := (e.client.tokens.createToken ⟨"ci"⟩).run.run c
    created.1 = .ok t ∧
      Json.read ApiToken.decode
          (((Command.tokens (.create "ci")).runToEnd e).run c).2.output =
        .ok t := by
  intro base backend e c t created
  have hcreated : created.1 = .ok t := eq_ok_of_toOption (by decide +kernel)
  have hlisted : (e.client.tokens.listTokens.run.run created.2).1.isOk := by decide +kernel
  obtain ⟨printed, hout, hshown, -⟩ := secret_shown_iff_listed e "ci" (Prod.ext hcreated rfl)
  have houtput : (((Command.tokens (.create "ci")).runToEnd e).run c).2.output = printed :=
    hout.trans String.empty_append
  refine ⟨hcreated, ?_⟩
  rw [houtput]
  exact (hshown hlisted).2

/-- A secret is lost if the list cannot be fetched after its token was created. -/
theorem created_secret_lost :
    let base : Url :=
      ⟨"http", "", none, some (.name "example.com"), none, .segments [""], none, none⟩
    let c : Console :=
      { files := ∅, flow := ⟨.unauthenticated, .untilCleared⟩, keys := .empty .server
        statistics := { window := ⟨default, default, .day⟩ } }
    ¬ ∀ (backend : Backend) (t : ApiToken) (c₁ : Console),
      let e : Setup := ⟨{ base, loginUrl := base }, "session.json", default, false, backend, []⟩
      (e.client.tokens.createToken ⟨"ci"⟩).run.run c = (.ok t, c₁) →
        After ((Command.tokens (.create "ci")).runToEnd e) c fun _ after =>
          t.token.toList <:+: after.output.toList := by
  intro base c h
  let backend : Backend := .scripted
    [.ok { status := 200, body := .ok (Utf8.ofString "\x7b\"id\":1,\"token\":\"s3cret\"\x7d") },
      .ok { status := 500 }]
  let e : Setup := ⟨{ base, loginUrl := base }, "session.json", default, false, backend, []⟩
  let created := (e.client.tokens.createToken ⟨"ci"⟩).run.run c
  have hcreated : created.1 = .ok ⟨1, 0, "s3cret", "", "", ""⟩ :=
    eq_ok_of_toOption (by decide +kernel)
  have hinfix := h backend _ created.2 (Prod.ext hcreated rfl)
  have hout :
      (((Command.tokens (.create "ci")).runToEnd e).run c).2.output = "" := by decide +kernel
  have hnil : "s3cret".toList <:+:
      (((Command.tokens (.create "ci")).runToEnd e).run c).2.output.toList := hinfix
  rw [hout] at hnil
  exact absurd (List.infix_nil.1 hnil) (by decide)

end Command

end SigningConsole
