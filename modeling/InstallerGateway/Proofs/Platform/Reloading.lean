import InstallerGateway.Proofs.Datum.Display
import InstallerGateway.Proofs.World.Acting
import InstallerGateway.World.Basic
import InstallerGateway.World.Refreshing
import Mathlib.Data.List.Infix

/-!
# The last table of platforms that was found

Reading the table again comes to two things about what is fetched: the table that it tells, and the
fault that spoils it. An object that tells a table replaces the one before; anything else leaves it.
So after any course of the store the table is the last one that was told, or the first one if there
is none. Only a scalar without a value is a failure, and so is an entry without a text, which takes
an integer of too many digits; either ends the loop that reads the table from time to time.
-/

namespace InstallerGateway

namespace PlatformTable

variable {body : ByteArray} {root doc : Datum} {entry : Datum × Datum} {f : DocumentFault}

/-- A key of the entry has no text, or its value counts as true and has none. -/
def IsUnwritten (root : Datum) (entry : Datum × Datum) : Prop :=
  Literal.display? root entry.1 = none ∨
    (Datum.resolve root entry.2).isTruthy = true ∧ Literal.display? root entry.2 = none

/-- A document is a mapping in which the text of some entry is missing. -/
def IsOverlong (doc : Datum) : Prop :=
  ∃ place entries, doc = .map place entries ∧ ∃ entry ∈ entries, IsUnwritten doc entry

/-- An entry makes no pair if one of its two texts is not there. -/
theorem pair?_eq_none_iff : pair? root entry = none ↔ IsUnwritten root entry := by
  have hsuffix : suffix? root entry.2 = none ↔
      (Datum.resolve root entry.2).isTruthy = true ∧ Literal.display? root entry.2 = none := by
    unfold suffix?
    split_ifs with htruthy <;> simp [htruthy]
  unfold IsUnwritten
  rw [← hsuffix]
  unfold pair?
  cases Literal.display? root entry.1 <;> cases suffix? root entry.2 <;> simp

/-- Entries make no table if one of them makes no pair. -/
theorem ofEntries?_eq_none_iff {entries : List (Datum × Datum)} :
    ofEntries? root entries = none ↔ ∃ entry ∈ entries, IsUnwritten root entry := by
  simp only [← pair?_eq_none_iff]
  unfold ofEntries?
  rw [Option.map_eq_none_iff]
  induction entries with
  | nil => simp
  | cons entry rest ih =>
    rw [List.mapM_cons, List.exists_mem_cons_iff, ← ih]
    cases pair? root entry <;> cases rest.mapM (pair? root) <;> simp

/-- No use can be made of a document that asks for too many digits, and of no other. -/
theorem ofDocument?_eq_error_iff :
    ofDocument? doc = .error f ↔ IsOverlong doc ∧ f = .tooLong := by
  unfold ofDocument?
  split
  · rename_i place entry entries
    have hmissing : IsOverlong (.map place (entry :: entries)) ↔
        ofEntries? (.map place (entry :: entries)) (entry :: entries) = none := by
      rw [ofEntries?_eq_none_iff]
      exact ⟨by rintro ⟨_, _, ⟨⟩, h⟩; exact h, fun h => ⟨_, _, rfl, h⟩⟩
    rw [hmissing]
    cases ofEntries? (.map place (entry :: entries)) (entry :: entries) <;> simp [eq_comm]
  · rename_i hempty
    refine iff_of_false nofun ?_
    rintro ⟨⟨place, entries, rfl, entry, hmem, -⟩, -⟩
    cases entries with
    | nil => cases hmem
    | cons e rest => exact hempty _ _ _ rfl

/-- A mapping in which no integer has too many digits has all its texts. -/
theorem not_isOverlong (h : doc.isShort = true) : ¬ IsOverlong doc := by
  rintro ⟨place, entries, rfl, entry, hmem, hunwritten⟩
  have hentry : entry.1.isShort = true ∧ entry.2.isShort = true :=
    Datum.isShort_of_mem_entries h hmem
  have hwritten {d : Datum} (hd : d.isShort = true) :
      Literal.display? (.map place entries) d ≠ none := by
    have hsome := Literal.isSome_display? h hd
    intro hnone
    rw [hnone] at hsome
    cases hsome
  rcases hunwritten with hkey | ⟨-, hvalue⟩
  · exact hwritten hentry.1 hkey
  · exact hwritten hentry.2 hvalue

/-- No use can be made of the document in a byte string as a table: one of its scalars has no value,
or it is a mapping in which a text is missing. -/
def IsUnusable (b : ByteArray) : DocumentFault → Prop
  | .noValue y => Yaml.loadBytes b = .error y ∧ y ≠ .malformed
  | .tooLong => ∃ doc, Yaml.loadBytes b = .ok doc ∧ IsOverlong doc

/-- No use can be made of bytes exactly if their document has no value or asks for too many digits.
-/
theorem reloaded?_eq_error_iff : reloaded? body = .error f ↔ IsUnusable body f := by
  unfold reloaded?
  cases hload : Yaml.loadBytes body with
  | ok doc =>
    dsimp only
    rw [ofDocument?_eq_error_iff]
    cases f <;> simp [IsUnusable, hload]
  | error y =>
    cases f with
    | noValue g => cases y <;> simp [IsUnusable, hload] <;> rintro rfl <;> simp
    | tooLong => cases y <;> simp [IsUnusable, hload]

theorem reloaded?_toOption (body : ByteArray) : (reloaded? body).toOption.join =
    (Yaml.loadBytes body).toOption.bind fun doc => (ofDocument? doc).toOption.join := by
  unfold reloaded?
  cases Yaml.loadBytes body with
  | ok doc => rfl
  | error f => cases f <;> rfl

end PlatformTable

namespace World

/-- The world with another table of platforms. -/
def withPlatforms (t : PlatformTable) (w : World) : World :=
  { w with platforms := { w.platforms with table := t } }

/-- The world in which the table of platforms is read again from an object. -/
def watching (key : String) (initial : PlatformTable) (w : World) : World :=
  { w with platforms := ⟨initial, some key, w.platforms.isWatched⟩ }

end World

namespace Refreshing

open Act

variable {key : String} {w : World}

/-! ## Reading once -/

/-- The table that is told by what is fetched: by an object whose document is a mapping that is not
empty. -/
def told? (fetched : Except Fault (Option StoredObject)) : Option PlatformTable :=
  match fetched with
  | .ok (some o) => (Yaml.loadBytes o.read).toOption.bind fun doc =>
    (PlatformTable.ofDocument? doc).toOption.join
  | _ => none

/-- What is fetched is an object, and no use can be made of its document. -/
def Spoils (fetched : Except Fault (Option StoredObject)) (f : DocumentFault) : Prop :=
  ∃ o, fetched = .ok (some o) ∧ PlatformTable.IsUnusable o.read f

/-- Nothing is fetched if the store fails. -/
theorem fetch?_perform (key : String) (w : World) :
    perform (fetch? key) w =
      (.ok (result (Storing.get key) w).toOption.join, after (Storing.get key) w) := by
  unfold perform result after perform fetch?
  rcases Storing.get key w with ⟨_ | _, _⟩ <;> rfl

/-- All that reading the table again does: a table that is told takes the place of the one before,
and it fails exactly if what is fetched is spoilt. -/
theorem refreshFrom_perform (key : String) (w : World) : ∃ outcome events,
    perform (refreshFrom key) w = (outcome,
      (w.withPlatforms ((told? (result (Storing.get key) w)).getD w.platforms.table)).noting
        events) ∧
      ∀ f, outcome = .error f ↔ ∃ g, Spoils (result (Storing.get key) w) g ∧ f = .document g := by
  obtain ⟨events, hw, -⟩ := Storing.get_after key w
  have hread : perform (refreshFrom key) w = _ := perform_bind_ok (fetch?_perform key w)
  rw [hread, hw]
  rcases result (Storing.get key) w with f | _ | o
  · exact ⟨.ok (), _, rfl, by simp [Spoils]⟩
  · exact ⟨.ok (), _, rfl, by simp [Spoils]⟩
  have htold : told? (.ok (some o)) = (PlatformTable.reloaded? o.read).toOption.join :=
    (PlatformTable.reloaded?_toOption o.read).symm
  have hspoils (g) : Spoils (.ok (some o)) g ↔ PlatformTable.reloaded? o.read = .error g := by
    rw [PlatformTable.reloaded?_eq_error_iff]
    exact ⟨by rintro ⟨o', ⟨⟩, h⟩; exact h, fun h => ⟨o, rfl, h⟩⟩
  simp only [htold, hspoils, Except.toOption, Option.join_some]
  rcases PlatformTable.reloaded? o.read with g | _ | t
  · exact ⟨.error (.document g), _, rfl, by simp [eq_comm]⟩
  · exact ⟨.ok (), _, rfl, by simp⟩
  · exact ⟨.ok (), .platformsLoaded :: _, rfl, by simp⟩

theorem refresh_perform (hk : w.platforms.source = some key) :
    perform refresh w = perform (refreshFrom key) w := by
  unfold refresh
  rw [perform_bind_ok (perform_get _), hk]

/-- Reading the table again leaves every part alone that the table is not in. -/
theorem refresh_keeps {γ : Type} {part : World → γ} (hp : IsLasting part)
    (htable : ∀ platforms (w : World), part { w with platforms := platforms } = part w) :
    Keeps part refresh := by
  intro w
  cases hk : w.platforms.source with
  | none =>
    have hfails : perform refresh w = (.error .noSource, w) := by
      unfold refresh
      rw [perform_bind_ok (perform_get _), hk]
      rfl
    rw [after_eq hfails]
  | some key =>
    obtain ⟨outcome, events, hw, -⟩ := refreshFrom_perform key w
    rw [after_eq ((refresh_perform hk).trans hw), hp.noting]
    exact htable _ w

end Refreshing

/-! ## Reading after each change of the store -/

/-- All that objects are fetched from. -/
structure Supply where
  storage : Storage
  bucket : Bucket
  outage : Option String

/-- The world in which objects are fetched from elsewhere. -/
def World.supplied (s : Supply) (w : World) : World :=
  { w with storage := s.storage, bucket := s.bucket, outage := s.outage }

/-- What is fetched from a store. -/
def Supply.fetch (s : Supply) (key : String) : Except Fault (Option StoredObject) :=
  Act.result (Storing.get key) ((World.start 0).supplied s)

theorem Supply.result_get (s : Supply) (key : String) (w : World) :
    Act.result (Storing.get key) (w.supplied s) = s.fetch key := by
  unfold Supply.fetch
  rw [Storing.get_result, Storing.get_result]
  rfl

namespace Refreshing

open Act

variable {key : String} {initial : PlatformTable} {w : World}

/-- The table is read again each time the store has changed. -/
def refreshes (supplies : List Supply) (w : World) : World :=
  supplies.foldl (fun w s => after refresh (w.supplied s)) w

/-- The last table that was told, or the first one if there is none. -/
def lastTold (key : String) (initial : PlatformTable) (supplies : List Supply) : PlatformTable :=
  (supplies.filterMap fun s => told? (s.fetch key)).getLast?.getD initial

/-- The last table that was told is that of the last object, if this tells one. -/
theorem lastTold_snoc (supplies : List Supply) (s : Supply) :
    lastTold key initial (supplies ++ [s]) =
      (told? (s.fetch key)).getD (lastTold key initial supplies) := by
  unfold lastTold
  rw [List.filterMap_append]
  cases h : told? (s.fetch key) <;> simp [h]

theorem lastTold_cons (s : Supply) (rest : List Supply) :
    lastTold key initial (s :: rest) = lastTold key ((told? (s.fetch key)).getD initial) rest := by
  unfold lastTold
  rw [List.filterMap_cons]
  cases told? (s.fetch key) with
  | none => rfl
  | some t => simp [List.getLast?_cons]

/-- One reading, in a world where the store has changed. -/
theorem refresh_supplied (hk : w.platforms.source = some key) (s : Supply) :
    ∃ outcome events, perform refresh (w.supplied s) = (outcome,
      ((w.supplied s).withPlatforms ((told? (s.fetch key)).getD w.platforms.table)).noting
        events) ∧
      ∀ f, outcome = .error f ↔ ∃ g, Spoils (s.fetch key) g ∧ f = .document g := by
  have hk' : (w.supplied s).platforms.source = some key := hk
  rw [refresh_perform hk', ← s.result_get key w]
  exact refreshFrom_perform key (w.supplied s)

/-- Reading the table replaces it if another one is told. -/
theorem refresh_platforms (hk : w.platforms.source = some key) (s : Supply) :
    (after refresh (w.supplied s)).platforms =
      { w.platforms with table := (told? (s.fetch key)).getD w.platforms.table } := by
  obtain ⟨outcome, events, hw, -⟩ := refresh_supplied hk s
  rw [after_eq hw]
  rfl

theorem refresh_eq_error_iff {f : Fault} (hk : w.platforms.source = some key) (s : Supply) :
    result refresh (w.supplied s) = .error f ↔ ∃ g, Spoils (s.fetch key) g ∧ f = .document g := by
  obtain ⟨outcome, events, hw, hf⟩ := refresh_supplied hk s
  rw [result_eq hw]
  exact hf f

/-- Reading the table succeeds exactly if use can be made of what is fetched. -/
theorem refresh_eq_ok_iff (hk : w.platforms.source = some key) (s : Supply) :
    result refresh (w.supplied s) = .ok () ↔ ∀ g, ¬ Spoils (s.fetch key) g := by
  constructor
  · intro h g hg
    have hfails := (refresh_eq_error_iff hk s).mpr ⟨g, hg, rfl⟩
    cases h.symm.trans hfails
  · intro h
    cases hr : result refresh (w.supplied s) with
    | ok _ => rfl
    | error f =>
      obtain ⟨g, hg, -⟩ := (refresh_eq_error_iff hk s).mp hr
      exact absurd hg (h g)

/-- The table after any course of the store. -/
theorem refreshes_platforms (key : String) (initial : PlatformTable) (w : World)
    (supplies : List Supply) :
    (refreshes supplies (w.watching key initial)).platforms =
      ⟨lastTold key initial supplies, some key, w.platforms.isWatched⟩ := by
  induction supplies using List.reverseRecOn with
  | nil => rfl
  | append_singleton supplies s ih =>
    have hk : (refreshes supplies (w.watching key initial)).platforms.source = some key := by
      rw [ih]
    unfold refreshes at hk ih ⊢
    rw [List.foldl_append, List.foldl_cons, List.foldl_nil, refresh_platforms hk, ih,
      lastTold_snoc]

/-! ## The loop that reads the table from time to time -/

/-- The store changes, once for each reading. -/
def changes (supplies : List Supply) : List (Act Unit) :=
  supplies.map fun s => modify (World.supplied s)

/-- The loop goes on if the table could be read, and it has seen the table before that. -/
theorem rounds_cons_eq_ok_iff (s : Supply) (rest : List (Act Unit))
    {tables : List PlatformTable} :
    result (rounds (modify (World.supplied s) :: rest)) w = .ok tables ↔
      result refresh (w.supplied s) = .ok () ∧
        ∃ later, result (rounds rest) (after refresh (w.supplied s)) = .ok later ∧
          tables = w.platforms.table :: later := by
  have htable : perform table w = (.ok w.platforms.table, w) := rfl
  have hround : result (rounds (modify (World.supplied s) :: rest)) w =
      result (refresh >>= fun _ => do return w.platforms.table :: (← rounds rest))
        (w.supplied s) := by
    show (perform (table >>= fun before => _) w).1 = _
    rw [perform_bind_ok htable, perform_bind_ok (perform_modify _ _)]
    rfl
  rw [hround, result_bind_eq_ok_iff]
  constructor
  · rintro ⟨⟨⟩, hr, h⟩
    obtain ⟨later, hlater, h⟩ := result_bind_eq_ok h
    cases h
    exact ⟨hr, later, hlater, rfl⟩
  · rintro ⟨hr, later, hlater, rfl⟩
    exact ⟨(), hr, result_bind_eq_ok_iff.mpr ⟨later, hlater, rfl⟩⟩

/-- The loop goes on as long as nothing that is fetched is spoilt, and the tables that are seen
meanwhile are the last ones that were told. -/
theorem rounds_eq_ok_iff {tables : List PlatformTable} (hk : w.platforms.source = some key)
    (supplies : List Supply) :
    result (rounds (changes supplies)) w = .ok tables ↔
      (∀ s ∈ supplies, ∀ g, ¬ Spoils (s.fetch key) g) ∧
        tables = supplies.inits.map (lastTold key w.platforms.table) := by
  induction supplies generalizing w tables with
  | nil =>
    show (.ok [w.platforms.table] : Except Fault _) = .ok tables ↔ _
    simp [lastTold, eq_comm]
  | cons s rest ih =>
    have hp := refresh_platforms hk s
    have hk' : (after refresh (w.supplied s)).platforms.source = some key := by
      rw [hp]
      exact hk
    have hinits : (s :: rest).inits.map (lastTold key w.platforms.table) =
        w.platforms.table ::
          rest.inits.map (lastTold key ((told? (s.fetch key)).getD w.platforms.table)) := by
      rw [List.inits_cons, List.map_cons, List.map_map]
      exact congrArg (w.platforms.table :: ·) (List.map_congr_left fun l _ => lastTold_cons s l)
    show result (rounds (modify (World.supplied s) :: changes rest)) w = .ok tables ↔ _
    rw [rounds_cons_eq_ok_iff, refresh_eq_ok_iff hk, List.forall_mem_cons, hinits]
    simp only [ih hk', hp, and_assoc, exists_and_left, exists_eq_left]

/-! ## The table that is in use -/

end Refreshing

end InstallerGateway
