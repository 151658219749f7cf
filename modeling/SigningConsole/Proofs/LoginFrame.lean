import SigningConsole.Screen
/-!
When the page of a login is open on the screen.

The page of a login and the note that one is under way are two fields of the screen. A login that
begins sets both, one that is closed clears both, and an identity that is forgotten clears the note
alone. After a run the page is open that was opened last, unless its login was closed
(`LastOpened`), but the login is under way only if the identity was not forgotten since. The two
therefore disagree just after a login that was rejected and not closed.

A run is cut at the event that opened the last page: what comes after it keeps the page
(`Screen.run_of_keepsPage`), and a run without such an event has neither a page nor a login
(`Screen.lastOpened_or_kept_or_idle`).

Main statements: `Screen.page_open_iff_under_way`, `Screen.page_open_after_rejection`.
-/

namespace SigningConsole

/-- What happens to the screen. -/
inductive ScreenEvent where
  | openLogin (page : Url)
  | closeLogin (identity : Option Identity)
  | identifyAs (identity : Identity)
  | forgetIdentity
  | openImage (url : String)
  | hideImage

/-- Whether the page of a login is the same after the event as before it. -/
def ScreenEvent.keepsPage : ScreenEvent → Bool
  | openLogin _ => false
  | closeLogin _ => false
  | _ => true

/-- No page was opened after this one, and its login was not closed. -/
structure LastOpened (page : Url) (since events : List ScreenEvent) : Prop where
  opened : ∃ before, events = before ++ .openLogin page :: since
  kept : ∀ e ∈ since, e.keepsPage = true

theorem LastOpened.cons {page : Url} {since events : List ScreenEvent}
    (h : LastOpened page since events) (e : ScreenEvent) : LastOpened page since (e :: events) := by
  obtain ⟨⟨before, rfl⟩, hkept⟩ := h
  exact ⟨⟨e :: before, rfl⟩, hkept⟩

namespace Screen

/-- The screen after an event. -/
def step (s : Screen) : ScreenEvent → Screen
  | .openLogin page => s.openLogin page
  | .closeLogin identity => s.closeLogin identity
  | .identifyAs identity => s.identifyAs identity
  | .forgetIdentity => s.forgetIdentity
  | .openImage url => s.openImage url
  | .hideImage => s.hideImage

/-- The screen after events in order. -/
def run (s : Screen) (events : List ScreenEvent) : Screen := events.foldl step s

/-- Neither a page is open nor a login under way. -/
structure Idle (s : Screen) : Prop where
  page : s.loginFrame = none
  login : s.loggingIn = false

theorem run_append (s : Screen) (before after : List ScreenEvent) :
    s.run (before ++ after) = (s.run before).run after := List.foldl_append

theorem step_of_keepsPage {e : ScreenEvent} (h : e.keepsPage = true) (s : Screen) :
    (s.step e).loginFrame = s.loginFrame ∧
      ((s.step e).loggingIn = true ↔ s.loggingIn = true ∧ e ≠ .forgetIdentity) := by
  cases e with
  | openLogin page => cases h
  | closeLogin identity => cases h
  | forgetIdentity => exact ⟨rfl, iff_of_false Bool.false_ne_true fun hlogin => hlogin.2 rfl⟩
  | identifyAs identity => exact ⟨rfl, (and_iff_left nofun).symm⟩
  | openImage url => exact ⟨rfl, (and_iff_left nofun).symm⟩
  | hideImage => exact ⟨rfl, (and_iff_left nofun).symm⟩

/-- Events that keep the page end a login that is under way only by forgetting the identity. -/
theorem run_of_keepsPage {events : List ScreenEvent} (h : ∀ e ∈ events, e.keepsPage = true)
    (s : Screen) :
    (s.run events).loginFrame = s.loginFrame ∧
      ((s.run events).loggingIn = true ↔ s.loggingIn = true ∧ .forgetIdentity ∉ events) := by
  induction events generalizing s with
  | nil => exact ⟨rfl, (and_iff_left List.not_mem_nil).symm⟩
  | cons e rest ih =>
    obtain ⟨hpage, hlogin⟩ := step_of_keepsPage (h e List.mem_cons_self) s
    obtain ⟨hpage', hlogin'⟩ := ih (fun x hx => h x (List.mem_cons_of_mem e hx)) (s.step e)
    refine ⟨hpage'.trans hpage, hlogin'.trans ?_⟩
    rw [hlogin, List.mem_cons, not_or, and_assoc, ne_comm]

theorem run_of_lastOpened {page : Url} {since events : List ScreenEvent}
    (h : LastOpened page since events) (s : Screen) :
    (s.run events).loginFrame = some page ∧
    ((s.run events).loggingIn = true ↔ .forgetIdentity ∉ since) := by
  obtain ⟨⟨before, rfl⟩, hkept⟩ := h
  obtain ⟨hpage, hlogin⟩ := run_of_keepsPage hkept ((s.run before).openLogin page)
  rw [run_append]
  exact ⟨hpage, hlogin.trans (and_iff_right rfl)⟩

/-- Unless some page was opened last, nothing has happened to pages or the last login was closed. -/
theorem lastOpened_or_kept_or_idle (events : List ScreenEvent) (s : Screen) :
    (∃ page since, LastOpened page since events) ∨ (∀ e ∈ events, e.keepsPage = true) ∨
    (s.run events).Idle := by
  induction events generalizing s with
  | nil => exact .inr (.inl nofun)
  | cons e rest ih =>
    obtain ⟨page, since, h⟩ | hkept | hidle := ih (s.step e)
    · exact .inl ⟨page, since, h.cons e⟩
    · cases he : e.keepsPage with
      | true => exact .inr (.inl (List.forall_mem_cons.2 ⟨he, hkept⟩))
      | false =>
        obtain ⟨hpage, hlogin⟩ := run_of_keepsPage hkept (s.step e)
        cases e with
        | openLogin page => exact .inl ⟨page, rest, ⟨⟨[], rfl⟩, hkept⟩⟩
        | closeLogin identity =>
          exact .inr (.inr ⟨hpage, Bool.eq_false_iff.2 fun h => Bool.false_ne_true (hlogin.1 h).1⟩)
        | _ => cases he
    · exact .inr (.inr hidle)

/-! ## Runs from the beginning -/

variable {events : List ScreenEvent}

theorem lastOpened_or_idle (events : List ScreenEvent) :
    (∃ page since, LastOpened page since events) ∨ (({} : Screen).run events).Idle := by
  obtain h | hkept | hidle := lastOpened_or_kept_or_idle events {}
  · exact .inl h
  · obtain ⟨hpage, hlogin⟩ := run_of_keepsPage hkept {}
    exact .inr ⟨hpage, Bool.eq_false_iff.2 fun h => Bool.false_ne_true (hlogin.1 h).1⟩
  · exact .inr hidle

theorem loginFrame_eq_some_iff {page : Url} :
    (({} : Screen).run events).loginFrame = some page ↔ ∃ since, LastOpened page since events := by
  constructor
  · intro hopen
    obtain ⟨page', since, h⟩ | hidle := lastOpened_or_idle events
    · obtain rfl := Option.some.inj ((run_of_lastOpened h {}).1.symm.trans hopen)
      exact ⟨since, h⟩
    · cases hidle.page.symm.trans hopen
  · rintro ⟨since, h⟩
    exact (run_of_lastOpened h {}).1

theorem loggingIn_iff :
    (({} : Screen).run events).loggingIn = true ↔
      ∃ page since, LastOpened page since events ∧ .forgetIdentity ∉ since := by
  constructor
  · intro hlogin
    obtain ⟨page, since, h⟩ | hidle := lastOpened_or_idle events
    · exact ⟨page, since, h, (run_of_lastOpened h {}).2.1 hlogin⟩
    · cases hidle.login.symm.trans hlogin
  · rintro ⟨page, since, h, hnot⟩
    exact (run_of_lastOpened h {}).2.2 hnot

/-- A page is open just while a login is under way, unless the identity was forgotten and
the login not closed. -/
theorem isSome_loginFrame_eq_loggingIn_iff :
    (({} : Screen).run events).loginFrame.isSome = (({} : Screen).run events).loggingIn ↔
      ¬ ∃ page since, LastOpened page since events ∧ .forgetIdentity ∈ since := by
  constructor
  · rintro heq ⟨page, since, h, hforgotten⟩
    obtain ⟨hopen, hlogin⟩ := run_of_lastOpened h {}
    rw [hopen] at heq
    exact hlogin.1 heq.symm hforgotten
  · intro hnot
    obtain ⟨page, since, h⟩ | hidle := lastOpened_or_idle events
    · obtain ⟨hopen, hlogin⟩ := run_of_lastOpened h {}
      rw [hopen, hlogin.2 fun hforgotten => hnot ⟨page, since, h, hforgotten⟩]
      rfl
    · rw [hidle.page, hidle.login]
      rfl

/-- After a run from the beginning, the page is open that was opened last and whose login was not
closed; the login is under way if the identity was not forgotten since either. The two agree just
when no identity was forgotten during a login that was not closed. -/
theorem page_open_iff_under_way (events : List ScreenEvent) :
    let s := ({} : Screen).run events
    (∀ page, s.loginFrame = some page ↔ ∃ since, LastOpened page since events) ∧
      (s.loggingIn = true ↔ ∃ page since, LastOpened page since events ∧ .forgetIdentity ∉ since) ∧
      (s.loginFrame.isSome = s.loggingIn ↔ ¬ ∃ page since, LastOpened page since events ∧
        .forgetIdentity ∈ since) :=
  ⟨fun _ => loginFrame_eq_some_iff, loggingIn_iff, isSome_loginFrame_eq_loggingIn_iff⟩

/-- A login that begins and is rejected leaves its page open. -/
theorem page_open_after_rejection :
    ¬ ∀ events : List ScreenEvent,
      (({} : Screen).run events).loginFrame.isSome = (({} : Screen).run events).loggingIn := by
  intro h
  let page : Url :=
    ⟨"https", "", none, some (.name "id.example.com"), none, .segments ["login"], none, none⟩
  exact absurd (h [.openLogin page, .forgetIdentity]) (by decide)

end Screen

end SigningConsole
