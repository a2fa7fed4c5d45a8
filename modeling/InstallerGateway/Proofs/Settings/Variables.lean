import InstallerGateway.Settings.Load
import Mathlib.Tactic.SplitIfs

/-!
# Variables of the environment

The last of several variables for one setting counts. One more variable for the key of publishers
changes the key and no other setting, whatever the other settings are.
-/

namespace InstallerGateway

namespace Dictionary

variable {α : Type} {name : String} {d : Dictionary α}

theorem put_of_absent (h : d.find? name = none) (value : α) :
    d.put name value = d ++ [(name, value)] := by
  induction d with
  | nil => rfl
  | cons e rest ih =>
    obtain ⟨k, v⟩ := e
    unfold find? at h
    split_ifs at h with hk
    rw [put, if_neg hk, ih h, List.cons_append]

end Dictionary

namespace Settings

variable {given : List (Datum × Datum)} {env : Dictionary String} {name value setting : String}

theorem fromEnv?_append_of_eq (h : lower name = setting) :
    fromEnv? (env ++ [(name, value)]) setting = some value := by
  unfold fromEnv?
  rw [List.reverse_append, List.reverse_singleton, List.singleton_append,
    List.find?_cons_of_pos (by simpa using h)]
  rfl

theorem fromEnv?_append_of_ne (h : lower name ≠ setting) :
    fromEnv? (env ++ [(name, value)]) setting = fromEnv? env setting := by
  unfold fromEnv?
  rw [List.reverse_append, List.reverse_singleton, List.singleton_append,
    List.find?_cons_of_neg (by simpa using h)]

theorem fromJson?_append_of_ne (h : lower name ≠ setting) :
    fromJson? (env ++ [(name, value)]) setting = fromJson? env setting := by
  unfold fromJson?
  rw [fromEnv?_append_of_ne h]

/-- A variable for another setting changes nothing that is found about this one. -/
theorem check_append_of_ne {α : Type} (h : lower name ≠ setting) (other : α)
    (read : Datum → Except Rejection α) :
    check ⟨given, env ++ [(name, value)]⟩ setting other read =
      check ⟨given, env⟩ setting other read := by
  unfold check source?
  rw [fromEnv?_append_of_ne h]

theorem exists_check_asText (h : Datum.field? setting given = none) (other : String) :
    ∃ text, check ⟨given, env⟩ setting other asText = pure text := by
  unfold check source?
  rw [h]
  cases fromEnv? env setting with
  | none => exact ⟨other, rfl⟩
  | some text => exact ⟨text, rfl⟩

/-- A setting that is a text is the last variable for it. -/
theorem check_append_of_eq (hgiven : Datum.field? setting given = none)
    (h : lower name = setting) (other : String) :
    check ⟨given, env ++ [(name, value)]⟩ setting other asText = pure value := by
  unfold check source?
  rw [hgiven, fromEnv?_append_of_eq h]
  rfl

/-- The settings with another key of publishers. -/
def withAuthKey (key : String) (s : Settings) : Settings := { s with releasesAuthKey := key }

/-- A variable for the key that is set after all others changes that setting alone. Variables are
texts, so the key before raises no issue that the new one could hide. -/
theorem checkAll_append (hgiven : Datum.field? "releases_auth_key" given = none)
    (hname : lower name = "releases_auth_key") (manifests allowList : Option Datum) :
    checkAll ⟨given, env ++ [(name, value)]⟩ manifests allowList =
      withAuthKey value <$> checkAll ⟨given, env⟩ manifests allowList := by
  have hother {α : Type} (setting : String) (other : α) (read : Datum → Except Rejection α)
      (h : "releases_auth_key" ≠ setting) :
      check ⟨given, env ++ [(name, value)]⟩ setting other read =
        check ⟨given, env⟩ setting other read :=
    check_append_of_ne (hname ▸ h) other read
  obtain ⟨before, hbefore⟩ : ∃ text, check ⟨given, env⟩ "releases_auth_key"
      (default : Settings).releasesAuthKey asText = pure text :=
    exists_check_asText hgiven _
  unfold checkAll
  simp (disch := decide) only [hother, hbefore, check_append_of_eq hgiven hname, pure_bind,
    map_bind, map_pure]
  rfl

/-- One more variable for the key of publishers changes the key alone, and what is no setting
remains none. -/
theorem load_append (hgiven : Datum.field? "releases_auth_key" given = none)
    (hname : lower name = "releases_auth_key") :
    load given (env ++ [(name, value)]) =
      (load given env).map (withAuthKey value) := by
  have hjson (setting : String) (h : "releases_auth_key" ≠ setting) :
      fromJson? (env ++ [(name, value)]) setting = fromJson? env setting :=
    fromJson?_append_of_ne (hname ▸ h)
  unfold load
  rw [hjson _ (by decide), hjson _ (by decide)]
  cases fromJson? env "platform_manifests" with
  | error f => rfl
  | ok manifests =>
    cases fromJson? env "allow_list" with
    | error f => rfl
    | ok allowList =>
      simp only [bind, Except.bind, checkAll_append hgiven hname, StateT.run_map]
      generalize (checkAll ⟨given, env⟩ _ _).run [] = checked
      show (if checked.2.isEmpty then .ok (checked.1.withAuthKey value)
          else .error (Fault.invalid checked.2)) = Except.map _
        (if checked.2.isEmpty then .ok checked.1 else .error (Fault.invalid checked.2))
      split_ifs <;> rfl

end Settings

end InstallerGateway
