/-
**What validation promises.**

Settings are valid if none of the three that a session needs is empty.  A session looks at two of
them, and at one of these later than validation does: the slashes at the end of a host are taken away
first, and only then must something be left.  So a host that is made of slashes passes validation and
opens no session, and it is the only one that does.

Main results:

* `MediaTree.trimSlashes_eq_empty_iff` — which hosts nothing is left of;
* `MediaTree.Settings.validate_eq_ok_iff` — what validation looks at;
* `MediaTree.Settings.session_eq_error_iff` — what a session looks at;
* `MediaTree.Settings.valid_settings_open_session` — **valid settings open a session, unless their
  host is made of slashes**.
-/

import Mathlib.Data.List.TakeWhile
import MediaTree.Command.Run

set_option autoImplicit false
set_option relaxedAutoImplicit false

namespace MediaTree

/-- Nothing is left of a text exactly if it is made of slashes. -/
theorem trimSlashes_eq_empty_iff (s : String) :
    trimSlashes s = "" ↔ ∀ c ∈ s.toList, c = '/' := by
  constructor
  · intro h
    obtain ⟨n, hn⟩ := toList_eq_trimSlashes_append s
    rw [h] at hn
    intro c hc
    exact List.eq_of_mem_replicate (hn ▸ hc)
  · intro h
    have hslashes : ∀ c ∈ s.toList.reverse, (c == '/') = true := fun c hc =>
      beq_iff_eq.2 (h c (List.mem_reverse.1 hc))
    rw [trimSlashes, List.dropWhile_eq_nil_iff.2 hslashes]
    rfl

namespace Settings

variable (s : Settings)

/-- **What validation looks at**: the three settings that a session needs are not empty. -/
theorem validate_eq_ok_iff :
    s.validate = .ok () ↔ s.url ≠ "" ∧ s.token ≠ "" ∧ s.user ≠ "" := by
  have hempty : s.firstEmpty? = none ↔ s.url ≠ "" ∧ s.token ≠ "" ∧ s.user ≠ "" := by
    simp [firstEmpty?, required, get]
  rw [← hempty, validate]
  cases s.firstEmpty? <;> simp

/-- **What a session looks at**: something is left of the host, and then that there is a user. -/
theorem session_eq_error_iff (e : CatalogError) :
    s.session = .error e ↔
      ((∀ c ∈ s.url.toList, c = '/') ∧ e = .invalidConfig "Missing host") ∨
      (¬ (∀ c ∈ s.url.toList, c = '/') ∧ s.user = "" ∧ e = .invalidConfig "Missing user_id") := by
  rw [← trimSlashes_eq_empty_iff, session, Session.open?]
  by_cases hhost : trimSlashes s.url = ""
  · simp [hhost, @eq_comm _ e]
  · by_cases huser : s.user = ""
    · simp [hhost, huser, @eq_comm _ e]
    · simp [hhost, huser]

/-- **Valid settings open a session, unless their host is made of slashes.**  A session that is opened
has the host without the slashes at its end, and token, user and device as they are; and if there is
none, the host is missed, although it was found not to be empty. -/
theorem valid_settings_open_session {s : Settings} (h : s.validate = .ok ()) :
    ((∃ c ∈ s.url.toList, c ≠ '/') → ∃ session, s.session = .ok session ∧
      session.host = trimSlashes s.url ∧ session.token = s.token ∧ session.user = s.user ∧
      session.device = s.device) ∧
    ∀ e, s.session = .error e ↔
      (∀ c ∈ s.url.toList, c = '/') ∧ e = .invalidConfig "Missing host" := by
  obtain ⟨-, -, huser⟩ := s.validate_eq_ok_iff.1 h
  have herror (e : CatalogError) : s.session = .error e ↔
      (∀ c ∈ s.url.toList, c = '/') ∧ e = .invalidConfig "Missing host" := by
    rw [session_eq_error_iff]
    simp [huser]
  refine ⟨?_, herror⟩
  rintro ⟨c, hc, hne⟩
  cases hsession : s.session with
  | error e => exact absurd (((herror e).1 hsession).1 c hc) hne
  | ok session => exact ⟨session, rfl, Session.open?_eq_ok_iff.1 hsession⟩

/-- Settings with two slashes as their host are valid, and open no session. -/
theorem slashes_are_valid :
    let s : Settings := { Settings.default with url := "//", token := "t", user := "u" }
    s.validate = .ok () ∧ s.session = .error (.invalidConfig "Missing host") := by
  intro s
  have hvalid : s.validate = .ok () := rfl
  exact ⟨hvalid, ((valid_settings_open_session hvalid).2 _).2 ⟨by simp [s], rfl⟩⟩

end Settings

end MediaTree
