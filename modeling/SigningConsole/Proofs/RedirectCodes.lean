import Mathlib.Logic.Relation
import SigningConsole.Console.Program
import SigningConsole.Proofs.CodeExchange
import SigningConsole.Proofs.EndpointPaths
import SigningConsole.Proofs.FormPairs
import SigningConsole.Proofs.LoginOutcome
/-!
What the code of a redirect makes the console ask of the backend.

Of the pairs of a redirect's query only the first code and the first state are looked at, and an
empty value counts as none. `Asks` says which query an exchange has for the pairs of a redirect: the
code, and behind it the state if there is one. One `Edit` of the pairs puts in a pair that is not
looked at, or lets neighbours change places; whatever edits lead from one redirect to another,
forwards or backwards, the two make the console do the same (`Url.redirect_asks`).
-/

namespace SigningConsole

open Calendar Text Url

variable {σ : Type}

/-! ## First values -/

/-- The first pair with the key has the value. -/
def FirstValue (key value : String) (pairs : List (String × String)) : Prop :=
  ∃ before after, pairs = before ++ (key, value) :: after ∧ ∀ e ∈ before, e.1 ≠ key

variable {key value : String} {pairs query : List (String × String)}

theorem firstValue_iff : FirstValue key value pairs ↔ pairs.lookup key = some value := by
  rw [List.lookup_eq_some_iff]
  simp only [FirstValue, bne_iff_ne, ne_comm (a := key)]

/-- A value that is empty counts as none. -/
theorem firstValue?_eq_some_iff :
    firstValue? key pairs = some value ↔ FirstValue key value pairs ∧ value ≠ "" := by
  rw [firstValue?, Option.filter_eq_some_iff, firstValue_iff]
  simp

theorem firstValue?_eq_none_iff :
    firstValue? key pairs = none ↔ ∀ value, FirstValue key value pairs → value = "" := by
  rw [Option.eq_none_iff_forall_ne_some]
  simp only [ne_eq, firstValue?_eq_some_iff, not_and, Classical.not_not]

/-- What the backend is asked when a redirect with these pairs is taken. -/
inductive Asks (pairs : List (String × String)) : List (String × String) → Prop where
  /-- There is a code and no state. -/
  | code {code : String} (hcode : FirstValue codeKey code pairs) (hne : code ≠ "")
      (hstate : ∀ state, FirstValue stateKey state pairs → state = "") :
      Asks pairs [(codeKey, code)]
  /-- There are both. -/
  | codeAndState {code state : String} (hcode : FirstValue codeKey code pairs) (hne : code ≠ "")
      (hstate : FirstValue stateKey state pairs) (hne' : state ≠ "") :
      Asks pairs [(codeKey, code), (stateKey, state)]

namespace Url

variable {u u' : Url} {code : RedirectCode}

theorem redirectCode?_isSome_iff (u : Url) :
    u.redirectCode?.isSome ↔ ∃ value, FirstValue codeKey value u.queryPairs ∧ value ≠ "" := by
  simp only [redirectCode?, Option.isSome_map, Option.isSome_iff_exists, firstValue?_eq_some_iff]

/-- A code is redeemed by asking for it, and for the state that is beside it. -/
theorem asks_of_redirectCode? (h : u.redirectCode? = some code) (variant : Variant) :
    Asks u.queryPairs (Endpoint.exchange variant code).query := by
  obtain ⟨value, hvalue, rfl⟩ := Option.map_eq_some_iff.1 h
  obtain ⟨hcode, hne⟩ := firstValue?_eq_some_iff.1 hvalue
  cases hstate : firstValue? stateKey u.queryPairs with
  | none =>
    have hquery : (Endpoint.exchange variant ⟨value, none⟩).query = [(codeKey, value)] := rfl
    rw [hquery]
    exact .code hcode hne (firstValue?_eq_none_iff.1 hstate)
  | some state =>
    have hquery :
        (Endpoint.exchange variant ⟨value, some state⟩).query = [(codeKey, value),
          (stateKey, state)] := rfl
    obtain ⟨hstate, hne'⟩ := firstValue?_eq_some_iff.1 hstate
    rw [hquery]
    exact .codeAndState hcode hne hstate hne'

/-- A redirect that carries a code is known as one. -/
theorem isRedirect_of_redirectCode? (h : u.redirectCode? = some code) : u.isRedirect = true := by
  obtain ⟨value, hvalue, -⟩ := Option.map_eq_some_iff.1 h
  obtain ⟨⟨before, after, hpairs, -⟩, -⟩ := firstValue?_eq_some_iff.1 hvalue
  refine List.any_eq_true.2 ⟨(codeKey, value), ?_, rfl⟩
  rw [hpairs]
  exact List.mem_append_right _ List.mem_cons_self

end Url

/-! ## Edits -/

/-- One change of the pairs of a redirect to which the console pays no attention. -/
inductive Edit : List (String × String) → List (String × String) → Prop where
  /-- A pair that is neither a code nor a state is put in. -/
  | other (before after : List (String × String)) {e : String × String}
      (h : isRedirectKey e.1 = false) :
      Edit (before ++ after) (before ++ e :: after)
  /-- A pair is put in behind one with its key. -/
  | later (before after : List (String × String)) {e : String × String}
      (h : e.1 ∈ before.map Prod.fst) :
      Edit (before ++ after) (before ++ e :: after)
  /-- Neighbours with different keys change places. -/
  | swapped (before after : List (String × String)) {d e : String × String} (h : d.1 ≠ e.1) :
      Edit (before ++ d :: e :: after) (before ++ e :: d :: after)

/-- Edits lead from one to the other, forwards or backwards. -/
def Edited : List (String × String) → List (String × String) → Prop := Relation.EqvGen Edit

theorem lookup_cons_of_ne {e : String × String} (h : e.1 ≠ key) :
    (e :: pairs).lookup key = pairs.lookup key := by
  rw [List.lookup_cons, beq_eq_false_iff_ne.2 h.symm]

/-- One edit leaves the first value of a redirect's keys as it is. -/
theorem Edit.lookup_eq {edited : List (String × String)} (h : Edit pairs edited)
    (hkey : isRedirectKey key = true) :
    edited.lookup key = pairs.lookup key := by
  cases h with
  | @other before after e h =>
    have hne : e.1 ≠ key := by
      rintro rfl
      rw [h] at hkey
      cases hkey
    rw [List.lookup_append, List.lookup_append, lookup_cons_of_ne hne]
  | @later before after e h =>
    by_cases hne : e.1 = key
    · obtain ⟨first, hfirst, hkey⟩ := List.mem_map.1 h
      have hfound : (before.lookup key).isSome :=
        List.lookup_isSome_iff.2 ⟨first, hfirst, by simp [hkey, hne]⟩
      obtain ⟨value, hvalue⟩ := Option.isSome_iff_exists.1 hfound
      rw [List.lookup_append, List.lookup_append, hvalue, Option.some_or, Option.some_or]
    · rw [List.lookup_append, List.lookup_append, lookup_cons_of_ne hne]
  | @swapped before after d e h =>
    obtain ⟨k, value⟩ := d
    obtain ⟨k', value'⟩ := e
    have hpair : ((k', value') :: (k, value) :: after).lookup key =
        ((k, value) :: (k', value') :: after).lookup key := by
      by_cases hk : k = key
      · have hk' : (key == k') = false := beq_eq_false_iff_ne.2 fun hk' => h (hk.trans hk')
        simp only [List.lookup_cons, hk']
      · have hk : (key == k) = false := beq_eq_false_iff_ne.2 (Ne.symm hk)
        simp only [List.lookup_cons, hk]
    rw [List.lookup_append, List.lookup_append, hpair]

/-- So do all edits together. -/
theorem Edited.lookup_eq {edited : List (String × String)} (h : Edited pairs edited)
    (hkey : isRedirectKey key = true) : edited.lookup key = pairs.lookup key := by
  induction h with
  | rel a b h => exact h.lookup_eq hkey
  | refl a => rfl
  | symm a b _ ih => exact ih.symm
  | trans a b c _ _ ih ih' => exact ih'.trans ih

theorem Edited.redirectCode?_eq {u u' : Url} (h : Edited u.queryPairs u'.queryPairs) :
    u'.redirectCode? = u.redirectCode? := by
  have hcode : u'.queryPairs.lookup codeKey = u.queryPairs.lookup codeKey := h.lookup_eq rfl
  have hstate : u'.queryPairs.lookup stateKey = u.queryPairs.lookup stateKey := h.lookup_eq rfl
  unfold redirectCode? firstValue?
  rw [hcode, hstate]

/-! ## The request -/

/-- A request asks what its description says, behind what the URL of its path asks. -/
theorem CallPlan.queryPairs_prepare {base : Url} {s : Option Session}
    {spec : CallPlan} {r : Request} (h : spec.prepare base s = .ok r) :
    ∃ url, resolve base spec.path = .ok url ∧ r.url.queryPairs = url.queryPairs ++ spec.query := by
  obtain ⟨url, hurl, rfl⟩ := prepare_eq_ok h
  refine ⟨url, hurl, (queryPairs_asked _).trans ?_⟩
  split
  · next hempty => rw [List.isEmpty_iff.1 hempty, List.append_nil]
  · exact queryPairs_addPairs url spec.query

/-- The request of an exchange asks what its description says and nothing else,
whatever the address is. -/
theorem Endpoint.queryPairs_exchange {base : Url} {s : Option Session} {variant : Variant}
    {code : RedirectCode} {r : Request} (h : (exchange variant code).prepare base s = .ok r) :
    r.url.queryPairs = (exchange variant code).query := by
  obtain ⟨names, hplain, hchars⟩ := plainAs_exchange variant code
  obtain ⟨url, hurl, hpairs⟩ := CallPlan.queryPairs_prepare h
  have hresolve := CallPlan.resolve_eq_join hplain base
  rw [← hchars, String.ofList_toList, hurl] at hresolve
  have hquery : url.query = none := by
    cases hjoin : base.join (String.ofList (relativeChars names none)) with
    | error e =>
      rw [hjoin] at hresolve
      cases hresolve
    | ok joined =>
      rw [hjoin] at hresolve
      cases hresolve
      exact Parser.join_plain_query hplain base url hjoin
  have hnone : url.queryPairs = [] := by
    rw [queryPairs, hquery]
    rfl
  rw [hpairs, hnone, List.nil_append]

/-! ## The flow -/

namespace Adapter

variable {a : Adapter σ} {deeds : σ → Deeds}

/-- An exchange of a code sends its request at most. -/
theorem exchange_sends (hd : a.Does deeds) (spec : CallPlan) (w : σ) :
    After (a.exchange spec).run w fun _ w' =>
      ∃ described, ExchangeReport a.base spec described (deeds w) (deeds w') := by
  have hc : a.ClearsOnly (fun _ => ()) id :=
    ⟨fun _ => rfl, fun _ _ _ => rfl, fun _ => rfl, fun _ _ => rfl, fun _ _ => rfl⟩
  refine (exchange_spec hc hd spec w).mono fun r w' hw' => ?_
  obtain ⟨described, hreport, -⟩ := hw'
  exact ⟨described, hreport⟩

end Adapter

namespace LoginFlow

/-- Of a redirect only its code is received. -/
theorem receive_congr {u u' : Url} (h : u'.redirectCode? = u.redirectCode?) (f : LoginFlow) :
    f.receive u' = f.receive u := by
  unfold receive
  rw [h]

theorem complete_congr {u u' : Url} (h : u'.redirectCode? = u.redirectCode?)
    (store : SessionStore σ) (calls : LoginCalls σ) (now : ClockTime) :
    complete store calls now u' = complete store calls now u := by
  funext f
  unfold complete
  rw [receive_congr h]

/-- What is received is what the redirect carries, and it waits then. -/
theorem receive_ok {f g : LoginFlow} {u : Url} {code : RedirectCode}
    (h : f.receive u = (.ok code, g)) :
    u.redirectCode? = some code ∧ g.state = .codeReceived code := by
  obtain ⟨waiting, -, hr⟩ | ⟨-, -, hr⟩ | ⟨-, received, hreceived, hr⟩ := receive_cases f u
  · cases hr.symm.trans h
  · cases hr.symm.trans h
  · cases hr.symm.trans h
    exact ⟨hreceived, rfl⟩

/-- A redirect makes the console send the request that redeems its code, or nothing. -/
theorem complete_sends {a : Adapter σ} {deeds : σ → Deeds} (hd : a.Does deeds)
    (plan : RedirectCode → CallPlan) (logout : Call σ Unit) (now : ClockTime) (u : Url)
    (f : LoginFlow) (w : σ) :
    After (f.complete a.store ⟨fun code => a.exchange (plan code), logout⟩ now u) w fun _ w' =>
      ∃ sent : Option Exchange, (deeds w').exchanges = (deeds w).exchanges ++ sent.toList ∧
        ∀ x ∈ sent, ∃ code, u.redirectCode? = some code ∧
          (plan code).prepare a.base none = .ok x.request := by
  unfold complete
  split
  · next code g hg =>
    obtain ⟨hcode, hstate⟩ := receive_ok hg
    unfold exchange
    rw [hstate]
    refine (Adapter.exchange_sends hd (plan code) w).bind fun r w' hw' => ?_
    obtain ⟨sent, hreport⟩ := hw'
    have hsent :
        ∃ sent : Option Exchange, (deeds w').exchanges = (deeds w).exchanges ++ sent.toList ∧
          ∀ x ∈ sent, ∃ code, u.redirectCode? = some code ∧
            (plan code).prepare a.base none = .ok x.request :=
      ⟨sent, hreport.exchanges, fun x hx => ⟨code, hcode, (hreport.described_request x hx).2⟩⟩
    cases r with
    | ok grant =>
      refine (keep_keeps hd.store now _ _ w').mono fun _ w'' hw'' => ?_
      rw [hw'']
      exact hsent
    | error e => exact hsent
  · exact ⟨none, (List.append_nil _).symm, fun x hx => nomatch hx⟩

end LoginFlow

theorem Run.loginWithCallback_congr {u u' : Url}
    (h : u'.redirectCode? = u.redirectCode?) (e : Setup) :
    loginWithCallback e u' = loginWithCallback e u := by
  unfold loginWithCallback
  simp only [LoginFlow.complete_congr h]

/-! ## Redirects -/

/-- The request that redeems a redirect's code asks for the code, and for the state beside it. -/
theorem Url.asks_of_prepare {u base : Url} {variant : Variant} {code : RedirectCode} {r : Request}
    (hcode : u.redirectCode? = some code)
    (h : (Endpoint.exchange variant code).prepare base none = .ok r) :
    Asks u.queryPairs r.url.queryPairs := by
  rw [Endpoint.queryPairs_exchange h]
  exact asks_of_redirectCode? hcode variant

/-- A redirect carries a code if its first one is not empty, and is known as a redirect then. The
backend is asked for that code and for the first state, if that is not empty either, and nothing is
sent but this one request. Edits to which no attention is paid, and whatever else differs in the
URLs, make no difference to what is done. -/
theorem Url.redirect_asks (u : Url) :
    (u.redirectCode?.isSome ↔ ∃ value, FirstValue codeKey value u.queryPairs ∧ value ≠ "") ∧
      (∀ code variant, u.redirectCode? = some code → u.isRedirect = true ∧
        Asks u.queryPairs (Endpoint.exchange variant code).query ∧
        (∀ s base, Url.parse s = .ok base → base.scheme = "http" ∨ base.scheme = "https" →
          ∃ r, (Endpoint.exchange variant code).prepare base.asDirectory none = .ok r) ∧
        ∀ base r, (Endpoint.exchange variant code).prepare base none = .ok r →
          Asks u.queryPairs r.url.queryPairs) ∧
      (∀ (e : Setup) (now : ClockTime) (f : LoginFlow) (c : Console),
        After (f.complete e.store e.client.auth now u) c fun _ c' => ∃ sent : Option Exchange,
          c'.traffic.exchanges = c.traffic.exchanges ++ sent.toList ∧
            ∀ x ∈ sent, Asks u.queryPairs x.request.url.queryPairs) ∧
      ∀ u', Edited u.queryPairs u'.queryPairs → u'.redirectCode? = u.redirectCode? ∧
        (∀ f : LoginFlow, f.receive u' = f.receive u) ∧
        ∀ e, Run.loginWithCallback e u' = Run.loginWithCallback e u := by
  refine ⟨u.redirectCode?_isSome_iff, fun code variant hcode => ?_, ?_, ?_⟩
  · have hoffered : Endpoint.Offered (Endpoint.exchange variant code) := .exchange variant code
    refine ⟨isRedirect_of_redirectCode? hcode, asks_of_redirectCode? hcode variant,
      fun s base hbase hscheme => ?_, fun base r h => asks_of_prepare hcode h⟩
    obtain ⟨names, query, -, hresolve⟩ := hoffered.resolve hbase hscheme
    exact CallPlan.prepare_ok_iff.2 ⟨⟨_, hresolve⟩, rfl⟩
  · intro e now f c
    refine (LoginFlow.complete_sends e.adapter_does (Endpoint.exchange e.client.variant)
      e.client.auth.logout now u f c).mono fun _ c' hc' => ?_
    obtain ⟨sent, hsent, hrequest⟩ := hc'
    refine ⟨sent, hsent, fun x hx => ?_⟩
    obtain ⟨code, hcode, hprepare⟩ := hrequest x hx
    exact asks_of_prepare hcode hprepare
  · intro u' h
    have hsame := h.redirectCode?_eq
    exact ⟨hsame, LoginFlow.receive_congr hsame, Run.loginWithCallback_congr hsame⟩

/-- The state comes first, something else before it, another code last, and the URL has a
fragment: all the same. -/
theorem Url.redirect_asks_edited :
    let u : Url :=
      ⟨"http", "", none, some (.name "localhost"), none, .segments [""],
        some "code=c0de&state=s%201", none⟩
    let u' : Url :=
      { u with query := some "x=1&state=s+1&code=c0de&code=other", fragment := some "f" }
    u.redirectCode? = some ⟨"c0de", some "s 1"⟩ ∧ Edited u.queryPairs u'.queryPairs ∧
      ∀ e, Run.loginWithCallback e u' = Run.loginWithCallback e u := by
  intro u u'
  have hpairs : u.queryPairs = [("code", "c0de"), ("state", "s 1")] := by decide +kernel
  have hpairs' :
      u'.queryPairs = [("x", "1"), ("state", "s 1"), ("code", "c0de"), ("code", "other")] := by
    decide +kernel
  have hedited : Edited u.queryPairs u'.queryPairs := by
    rw [hpairs, hpairs']
    have hswapped :
        Edited [("code", "c0de"), ("state", "s 1")] [("state", "s 1"), ("code", "c0de")] :=
      .rel _ _ (.swapped [] [] (by decide))
    have hlater : Edited [("state", "s 1"), ("code", "c0de")]
        [("state", "s 1"), ("code", "c0de"), ("code", "other")] :=
      .rel _ _ (.later [("state", "s 1"), ("code", "c0de")] [] (by decide))
    have hother : Edited [("state", "s 1"), ("code", "c0de"), ("code", "other")]
        [("x", "1"), ("state", "s 1"), ("code", "c0de"), ("code", "other")] :=
          .rel _ _ (.other [] _ (by decide))
    exact (hswapped.trans _ _ _ hlater).trans _ _ _ hother
  exact ⟨by decide +kernel, hedited, ((redirect_asks u).2.2.2 u' hedited).2.2⟩

end SigningConsole
