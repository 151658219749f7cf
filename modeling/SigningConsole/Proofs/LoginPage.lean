import SigningConsole.Console.Basic
import SigningConsole.Proofs.After
import SigningConsole.Proofs.PlainPaths
/-!
Where the login page of a backend is.

The calls of the backend go below the directories of its address, as `CallPlan.resolve` reads their
paths against the address with a slash at its end. The login page unless another is set is read from
the root of the backend's host. `login_page_agrees_iff`: the two lead to one page just when the
address has no path.
-/

namespace SigningConsole

open Url

/-! ## Pages -/

theorem Url.below_eq_atRoot_iff {u : Url} {segs names : List String}
    (hpath : u.path = .segments segs) (hsegs : segs ≠ []) :
    u.below names = u.atRoot names ↔ u.path = .segments [""] := by
  have hsegments : Parser.segmentsOf u = segs := by rw [Parser.segmentsOf, hpath]
  have hpaths : u.below names = u.atRoot names ↔ Path.directories segs ++ names = names := by
    rw [below, hsegments]
    refine ⟨fun h => ?_, fun h => by rw [h]⟩
    exact Path.segments.inj (congrArg Url.path h)
  rw [hpaths, List.append_left_eq_self, hpath, Path.segments.injEq]
  unfold Path.directories
  split
  · next hlast =>
    obtain ⟨dirs, rfl⟩ := List.getLast?_eq_some_iff.1 hlast
    simp
  · next hlast =>
    refine ⟨fun h => absurd h hsegs, fun h => ?_⟩
    rw [h] at hlast
    exact absurd rfl hlast

/-! ## The login page -/

/-- The names that lead to the login page. -/
def loginNames : List String := ["api", "v1", "users", "login"]

theorem isPlainPath_loginNames : IsPlainPath loginNames none := by decide

theorem loginPath_eq : Settings.loginPath = String.ofList ('/' :: relativeChars loginNames none) :=
  rfl

section Address

variable {base : Url} {segs : List String}

/-- The login page unless another is set is read from the root of the backend's host. -/
theorem Settings.defaultLogin_eq_atRoot (hpath : base.path = .segments segs)
    (hspecial : isSpecial base.scheme = true) (hfile : base.scheme ≠ "file") :
    defaultLogin base = base.atRoot loginNames := by
  have hrelative : base.join loginPath = Parser.relative base loginPath.toList :=
    Parser.join_of_relative (by rw [isRootless, hpath]) hfile rfl
  have honto := Parser.onto_plain isPlainPath_loginNames hspecial hfile []
  have hjoin : base.join loginPath = .ok (base.atRoot loginNames) := hrelative.trans honto
  rw [defaultLogin, hjoin]

/-- The calls of the backend go below the directories of its address. -/
theorem CallPlan.resolve_login (hpath : base.path = .segments segs)
    (hwritten : ∀ seg ∈ segs, Path.Written seg) (hspecial : isSpecial base.scheme = true)
    (hfile : base.scheme ≠ "file") :
    resolve base.asDirectory Settings.loginPath = .ok (base.below loginNames) := by
  rw [loginPath_eq]
  exact resolve_plain isPlainPath_loginNames hpath hwritten hspecial hfile

end Address

/-- The calls of the backend go to `<address>/api/v1/users/login`, without query and fragment of the
address. The login page unless another is set leaves out the path of the address, so that it is the
same just when there is none. -/
theorem Setup.login_page_agrees_iff (e : Setup) {s : String}
    (hbase : Url.parse s = .ok e.settings.base)
    (hscheme : e.settings.base.scheme = "http" ∨ e.settings.base.scheme = "https") :
    CallPlan.resolve e.client.adapter.base Settings.loginPath =
      .ok (e.settings.base.below loginNames) ∧
    (Settings.ofBase e.settings.base).loginUrl = e.settings.base.atRoot loginNames ∧
    (CallPlan.resolve e.client.adapter.base Settings.loginPath =
        .ok (Settings.ofBase e.settings.base).loginUrl ↔
      e.settings.base.path = .segments [""]) := by
  have hspecial : isSpecial e.settings.base.scheme = true := by
    rcases hscheme with h | h <;> rw [h] <;> decide
  have hfile : e.settings.base.scheme ≠ "file" := by
    rcases hscheme with h | h <;> rw [h] <;> decide
  obtain ⟨segs, hpath, hsegs, hwritten⟩ := Parser.segments_of_parse hbase hspecial hfile
  have hcall :
      CallPlan.resolve e.client.adapter.base
        Settings.loginPath = .ok (e.settings.base.below loginNames) :=
    CallPlan.resolve_login hpath hwritten hspecial hfile
  have hpage : (Settings.ofBase e.settings.base).loginUrl = e.settings.base.atRoot loginNames :=
    Settings.defaultLogin_eq_atRoot hpath hspecial hfile
  refine ⟨hcall, hpage, ?_⟩
  rw [hcall, hpage, Except.ok.injEq]
  exact Url.below_eq_atRoot_iff hpath hsegs

/-- An address with a path, a query and a fragment: the calls go below the path, the login
page is outside of it. -/
theorem Setup.login_page_beside_path :
    let base : Url :=
      ⟨"https", "", none, some (.name "example.com"), some 8443, .segments ["a", ".%7e", ""],
        some "q", some "f"⟩
    let e : Setup := ⟨{ base, loginUrl := base }, "session.json", default, false, .unreachable, []⟩
    Url.parse "HTTPS://Example.com:8443/a/b/../.%7e/?q#f" = .ok base ∧ base.scheme = "https" ∧
      CallPlan.resolve e.client.adapter.base Settings.loginPath = .ok (base.below loginNames) ∧
      (base.below loginNames).path = .segments (["a", ".%7e"] ++ loginNames) ∧
      (Settings.ofBase base).loginUrl = base.atRoot loginNames := by
  intro base e
  have hbase : Url.parse "HTTPS://Example.com:8443/a/b/../.%7e/?q#f" = .ok base :=
    eq_ok_of_toOption (by decide +kernel)
  obtain ⟨hcall, hpage, -⟩ := e.login_page_agrees_iff hbase (.inr rfl)
  exact ⟨hbase, rfl, hcall, rfl, hpage⟩

/-- The login page of an address with a path is not where the calls go. -/
theorem Setup.login_page_loses_path :
    ¬ ∀ (e : Setup) (s : String), Url.parse s = .ok e.settings.base →
      e.settings.base.scheme = "http" ∨ e.settings.base.scheme = "https" →
        CallPlan.resolve e.client.adapter.base Settings.loginPath =
          .ok (Settings.ofBase e.settings.base).loginUrl := by
  intro h
  let base : Url :=
    ⟨"http", "", none, some (.name "sig.example.com"), none, .segments ["backend"], none, none⟩
  let e : Setup := ⟨{ base, loginUrl := base }, "session.json", default, false, .unreachable, []⟩
  have hbase : Url.parse "http://sig.example.com/backend" = .ok base :=
    eq_ok_of_toOption (by decide +kernel)
  have hcall := h e "http://sig.example.com/backend" hbase (.inl rfl)
  have hother : (CallPlan.resolve e.client.adapter.base Settings.loginPath).toOption ≠
      some (Settings.ofBase e.settings.base).loginUrl := by decide +kernel
  exact hother (by rw [hcall]; rfl)

end SigningConsole
