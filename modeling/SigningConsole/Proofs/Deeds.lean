import SigningConsole.Http.Adapter
import SigningConsole.Proofs.Store
/-!
What an adapter does to the world: the requests it sends, the times it sends the operator to the
login, and the notices it gives.

`Adapter.Does a deeds` says that each operation of the adapter adds to the deeds what its name says,
and that the store and the log add nothing. It holds of an adapter for a backend whose store is kept
apart from the traffic (`Adapter.forBackend_does`), and it is all that is used of the adapter here.
Which requests can be sent at all is told of the URL and the headers that they are made of
(`Request.canBeSent_to_iff`).
-/

namespace SigningConsole

open Calendar

variable {σ τ α : Type}

/-- What was sent, with what came of it, how often the operator was sent to the login, and
what was notified. -/
structure Deeds where
  exchanges : List Exchange
  redirects : Nat
  notices : List String

namespace Deeds

/-- With a request that was sent, if one was. -/
def plus (d : Deeds) (x : Option Exchange) : Deeds :=
  { d with exchanges := d.exchanges ++ x.toList }

def redirected (d : Deeds) : Deeds := { d with redirects := d.redirects + 1 }

def notified (d : Deeds) (message : String) : Deeds := { d with notices := d.notices ++ [message] }

@[simp] theorem plus_none (d : Deeds) : d.plus none = d := by
  unfold plus
  rw [Option.toList_none, List.append_nil]

end Deeds

/-- The traffic without its log. -/
def Traffic.deeds (t : Traffic) : Deeds := ⟨t.exchanges, t.redirects, t.notices⟩

/-- Every operation of the adapter adds to the deeds what its name says. -/
structure Adapter.Does (a : Adapter σ) (deeds : σ → Deeds) : Prop where
  store : a.store.Quiet deeds
  send : ∀ purpose request w, After (a.send purpose request) w fun outcome w' =>
    deeds w' = (deeds w).plus (some ⟨purpose, request, outcome⟩)
  redirect : ∀ w, After a.redirect w fun _ w' => deeds w' = (deeds w).redirected
  notify : ∀ message w, After (a.notify message) w fun _ w' => deeds w' = (deeds w).notified message
  log : ∀ entry, Keeps deeds (a.log entry)

/-- An adapter for a backend, with its store beside the traffic. -/
theorem Adapter.forBackend_does (store : SessionStore τ) (base loginUrl : Url) (backend : Backend) :
    (Adapter.forBackend (Part.second : Part (τ × Traffic) Traffic) (store.onPart Part.first) base
      loginUrl backend).Does fun w => w.2.deeds :=
  ⟨store.onPart_quiet fun _ _ => rfl, fun _ _ _ => rfl, fun _ => rfl, fun _ _ => rfl,
    fun _ _ => rfl⟩

/-! ## Requests that can be sent -/

namespace Request

/-- The URL names a host that is reached by HTTP, and is a URI by its grammar; and the
headers are legal. -/
structure CanBeSent (r : Request) : Prop where
  host : r.url.host.isSome
  scheme : r.url.scheme = "http" ∨ r.url.scheme = "https"
  uri : r.url.isUri
  headers : ∀ h ∈ r.headers, ∀ c ∈ h.2.toList, isHeaderChar c

theorem isHeaderChar_base64Letter : ∀ n < 64, isHeaderChar (Text.base64Letter n) := by
  decide

theorem isHeaderChar_of_mem_userHeaders {url : Url} {h : String × String}
    (hh : h ∈ url.userHeaders) : ∀ c ∈ h.2.toList, isHeaderChar c := by
  obtain ⟨⟨user, password⟩, -, rfl⟩ := List.mem_map.1 hh
  intro c hc
  rw [String.toList_append] at hc
  obtain hc | hc := List.mem_append.1 hc
  · have hbasic : "Basic ".toList.all isHeaderChar := by decide
    exact List.all_eq_true.1 hbasic c hc
  · rw [String.toList_ofList] at hc
    obtain rfl | ⟨n, hn, rfl⟩ := Text.letter_of_mem_base64 hc
    · decide
    · exact isHeaderChar_base64Letter n hn

theorem fault?_eq_none_iff (r : Request) : r.fault? = none ↔ r.CanBeSent := by
  have hhost : ¬ r.url.host.isNone ↔ r.url.host.isSome := by
    cases r.url.host <;> simp
  have hheaders : ¬ (r.headers.any fun h => h.2.toList.any fun c => !isHeaderChar c) ↔
      ∀ h ∈ r.headers, ∀ c ∈ h.2.toList, isHeaderChar c := by
    simp
  have hscheme : ¬ (r.url.scheme != "http" && r.url.scheme != "https") ↔
      (r.url.scheme = "http" ∨ r.url.scheme = "https") := by
    simp [Decidable.or_iff_not_imp_left]
  have huri : ¬ (!r.url.isUri) ↔ r.url.isUri := by
    simp
  unfold fault?
  constructor
  · intro h
    split at h
    · cases h
    · split at h
      · cases h
      · split at h
        · cases h
        · split at h
          · cases h
          · rename_i h₁ h₂ h₃ h₄
            exact ⟨hhost.1 h₁, hscheme.1 h₃, huri.1 h₄, hheaders.1 h₂⟩
  · rintro ⟨h₁, h₂, h₃, h₄⟩
    rw [if_neg (hhost.2 h₁), if_neg (hheaders.2 h₄), if_neg (hscheme.2 h₂), if_neg (huri.2 h₃)]

/-- The header that comes of user name and password is always legal, so that they never keep a
request from being sent: what the URL is without them and the other headers decide. -/
theorem canBeSent_to_iff {method : Method} {url : Url} {headers : List (String × String)}
    {body : Body} :
    (Request.to method url headers body).CanBeSent ↔
      url.host.isSome ∧ (url.scheme = "http" ∨ url.scheme = "https") ∧ url.asked.isUri ∧
        ∀ h ∈ headers, ∀ c ∈ h.2.toList, isHeaderChar c := by
  have hhost : url.asked.host = url.host := by
    obtain h | h := url.asked_eq_or <;> rw [h] <;> rfl
  have hscheme : url.asked.scheme = url.scheme := by
    obtain h | h := url.asked_eq_or <;> rw [h] <;> rfl
  constructor
  · rintro ⟨h₁, h₂, h₃, h₄⟩
    exact ⟨hhost ▸ h₁, hscheme ▸ h₂, h₃, fun h hh => h₄ h (List.mem_append_right _ hh)⟩
  · rintro ⟨h₁, h₂, h₃, h₄⟩
    refine ⟨hhost.symm ▸ h₁, hscheme.symm ▸ h₂, h₃, fun h hh => ?_⟩
    obtain hh | hh := List.mem_append.1 hh
    · exact isHeaderChar_of_mem_userHeaders hh
    · exact h₄ h hh

theorem not_canBeSent {r : Request} {fault : TransportFault} (h : r.fault? = some fault) :
    ¬ r.CanBeSent := by
  intro hs
  rw [(fault?_eq_none_iff r).2 hs] at h
  cases h

end Request

namespace Adapter

variable {a : Adapter σ} {deeds : σ → Deeds}

/-- What comes of a request that is to be sent: it cannot be, or it is sent once. -/
inductive Delivered (purpose : Purpose) (request : Request) : Option Exchange → Outcome → Prop where
  | withheld {fault : TransportFault} (h : request.fault? = some fault) :
      Delivered purpose request none (.error fault)
  | sent (h : request.CanBeSent) (outcome : Outcome) :
      Delivered purpose request (some ⟨purpose, request, outcome⟩) outcome

theorem deliver_deeds (h : a.Does deeds) (purpose : Purpose) (request : Request) (w : σ) :
    After (a.deliver purpose request) w fun outcome w' =>
      ∃ sent, deeds w' = (deeds w).plus sent ∧ Delivered purpose request sent outcome := by
  unfold deliver
  cases hf : request.fault? with
  | some fault => exact ⟨none, (Deeds.plus_none _).symm, .withheld hf⟩
  | none =>
    have hs := (Request.fault?_eq_none_iff request).1 hf
    exact (h.send purpose request w).mono fun outcome w' hw' => ⟨_, hw', .sent hs outcome⟩

/-- The cookies of an answer go into the session whether or not that can be stored. -/
theorem absorb_deeds (h : a.Does deeds) (s : Session) (answer : Answer) (w : σ) :
    After (a.absorb s answer) w fun s' w' => s' = (s.absorbAll answer.setCookies).1 ∧
      deeds w' = deeds w := by
  unfold absorb
  generalize s.absorbAll answer.setCookies = absorbed
  obtain ⟨s', changed⟩ := absorbed
  cases changed with
  | false => exact ⟨rfl, rfl⟩
  | true =>
    refine (h.store.save s' w).bind fun r w' hw' => ?_
    cases r with
    | ok _ => exact ⟨rfl, hw'⟩
    | error e => exact (h.log _ w').bind fun _ w'' hw'' => ⟨rfl, hw''.trans hw'⟩

end Adapter

end SigningConsole
