import InstallerGateway.Limit.Window
import Mathlib.Data.List.Basic
import Mathlib.Tactic.SplitIfs

/-!
# Counting in windows of time

What is counted together falls into windows of time: a window opens with the first thing, or the
first one after the last window, and lasts for a certain length. The things in a window see the
numbers one, two, three and so on, whatever else is counted apart from them.
-/

namespace InstallerGateway

/-! ## Single hits -/

/-- The window that counts one more hit at an instant, after the last window. -/
def Window.following (length : Nat) (last : Option Window) (now : Instant) : Window :=
  match last.filter fun w => now < w.closes with
  | some w => { w with hits := w.hits + 1 }
  | none => ⟨now + length, 1⟩

theorem Window.following_of_open {length : Nat} {w : Window} {now : Instant} (h : now < w.closes) :
    following length (some w) now = ⟨w.closes, w.hits + 1⟩ := by
  have hopen : (some w).filter (fun w => now < w.closes) = some w := by
    simp [Option.filter, h]
  simp only [following, hopen]

theorem Window.following_of_over {length : Nat} {last : Option Window} {now : Instant}
    (h : ∀ w ∈ last, w.closes ≤ now) : following length last now = ⟨now + length, 1⟩ := by
  have hover : (last.filter fun w => now < w.closes) = none := by
    rw [Option.filter_eq_none_iff]
    intro w hw
    simpa using Rat.not_lt.mpr (h w hw)
  simp only [following, hover]

namespace Windows

variable {ws : Windows} {now : Instant} {c d : Counted}

theorem next_eq (ws : Windows) (now : Instant) (c : Counted) :
    ws.next now c = .following c.limit.length (ws.lookup c) now := rfl

@[simp] theorem lookup_replace_self (c : Counted) (w : Window) (ws : Windows) :
    (ws.replace c w).lookup c = some w := by
  induction ws with
  | nil => simp [replace]
  | cons entry rest ih =>
    obtain ⟨d, v⟩ := entry
    unfold replace
    split_ifs with hd
    · simp
    · rw [List.lookup_cons, beq_eq_false_iff_ne.mpr (Ne.symm hd)]
      exact ih

theorem lookup_replace_of_ne (h : d ≠ c) (w : Window) (ws : Windows) :
    (ws.replace c w).lookup d = ws.lookup d := by
  induction ws with
  | nil => simp [replace, List.lookup_cons, beq_eq_false_iff_ne.mpr h]
  | cons entry rest ih =>
    obtain ⟨e, v⟩ := entry
    unfold replace
    split_ifs with he
    · subst he
      simp [List.lookup_cons, beq_eq_false_iff_ne.mpr h]
    · rw [List.lookup_cons, List.lookup_cons, ih]

@[simp] theorem lookup_hit_self (ws : Windows) (now : Instant) (c : Counted) :
    (ws.hit now c).lookup c = some (ws.next now c) := lookup_replace_self c _ ws

theorem lookup_hit_of_ne (h : d ≠ c) (ws : Windows) (now : Instant) :
    (ws.hit now c).lookup d = ws.lookup d := lookup_replace_of_ne h _ ws

end Windows

/-! ## Windows -/

section Counting

variable {α : Type} {length : Nat} {time : α → Instant} {seen : α → Nat}

/-- Things that happen at instants, by windows of time. -/
def windowed (length : Nat) (time : α → Instant) : List α → List (List α)
  | [] => []
  | a :: rest =>
    (a :: rest.takeWhile fun b => time b < time a + length) ::
      windowed length time (rest.dropWhile fun b => time b < time a + length)
termination_by items => items.length
decreasing_by
  have hrest := (List.dropWhile_suffix (l := rest) fun b => time b < time a + length).length_le
  exact Nat.lt_succ_of_le hrest

/-- Everything falls into one of the windows. -/
@[simp] theorem flatten_windowed (length : Nat) (time : α → Instant) (items : List α) :
    (windowed length time items).flatten = items := by
  induction items using windowed.induct length time with
  | case1 => simp [windowed]
  | case2 a rest ih =>
    rw [windowed, List.flatten_cons, ih, List.cons_append, List.takeWhile_append_dropWhile]

/-- The things happen one after the other, and each sees how many hits there are in the window that
counts it, after the last window before. -/
def SeesHits (length : Nat) (time : α → Instant) (seen : α → Nat) : Option Window → List α → Prop
  | _, [] => True
  | last, a :: rest =>
    seen a = (Window.following length last (time a)).hits ∧
      SeesHits length time seen (some (.following length last (time a))) rest

/-- As long as a window is open the numbers go on, and after that another window has to open. -/
theorem SeesHits.go_on {w : Window} {items : List α}
    (h : SeesHits length time seen (some w) items) :
    let inside := items.takeWhile fun b => time b < w.closes
    inside.map seen = List.range' (w.hits + 1) inside.length ∧
      SeesHits length time seen (some ⟨w.closes, w.hits + inside.length⟩)
        (items.dropWhile fun b => time b < w.closes) := by
  induction items generalizing w with
  | nil => exact ⟨rfl, trivial⟩
  | cons a rest ih =>
    by_cases hopen : time a < w.closes
    · obtain ⟨hseen, hrest⟩ := h
      rw [Window.following_of_open hopen] at hseen hrest
      obtain ⟨hnumbers, hlater⟩ := ih hrest
      rw [List.takeWhile_cons_of_pos (by simpa using hopen),
        List.dropWhile_cons_of_pos (by simpa using hopen)]
      dsimp only
      refine ⟨?_, ?_⟩
      · rw [List.map_cons, List.length_cons, List.range'_succ, hnumbers, hseen]
      · rw [List.length_cons, show ∀ n, w.hits + (n + 1) = w.hits + 1 + n by omega]
        exact hlater
    · rw [List.takeWhile_cons_of_neg (by simpa using hopen),
        List.dropWhile_cons_of_neg (by simpa using hopen)]
      exact ⟨rfl, h⟩

/-- What is seen in a window are the numbers from one on. -/
theorem SeesHits.map_seen {last : Option Window} {items : List α}
    (h : SeesHits length time seen last items)
    (hover : ∀ w ∈ last, ∀ a ∈ items.head?, w.closes ≤ time a) {window : List α}
    (hwindow : window ∈ windowed length time items) :
    window.map seen = List.range' 1 window.length := by
  induction items using windowed.induct length time generalizing last with
  | case1 => simp [windowed] at hwindow
  | case2 a rest ih =>
    obtain ⟨hseen, hrest⟩ := h
    rw [Window.following_of_over fun w hw => hover w hw a rfl] at hseen hrest
    obtain ⟨hnumbers, hlater⟩ := hrest.go_on
    rw [windowed, List.mem_cons] at hwindow
    rcases hwindow with rfl | hwindow
    · rw [List.map_cons, hseen, hnumbers]
      rfl
    · -- What comes next is not before the end of this window.
      refine ih hlater ?_ hwindow
      rintro w ⟨⟩ b hb
      have hnot := List.head?_dropWhile_not (fun b => decide (time b < time a + length)) rest
      rw [Option.mem_def.mp hb] at hnot
      exact Rat.not_lt.mp (by simpa using hnot)

end Counting

theorem countP_range'_le (limit start n : Nat) :
    (List.range' start n).countP (· ≤ limit) = min (limit + 1 - start) n := by
  induction n generalizing start with
  | zero => simp
  | succ n ih =>
    rw [List.range'_succ, List.countP_cons, ih]
    by_cases h : start ≤ limit
    · rw [if_pos (by simpa using h)]
      omega
    · rw [if_neg (by simpa using h)]
      omega

end InstallerGateway
