/-
The parts of a text, or of any list, between separators.

- `joined_parts`: the parts, joined by the separator, are the list;
- `parts_joined`: lists without the separator, joined by it, are the parts;
- `parts_ne_nil`: there is always one part.
-/
import CallFeed.Text.Basic

namespace CallFeed.Text

variable {α : Type}

/-- put an element in front of the first part -/
def consFirst (c : α) : List (List α) → List (List α)
  | [] => [[c]]
  | p :: ps => (c :: p) :: ps

/-- the parts of a list between separators -/
def parts [DecidableEq α] (sep : α) : List α → List (List α)
  | [] => [[]]
  | c :: t => if c = sep then [] :: parts sep t else consFirst c (parts sep t)

/-- lists with a separator between each and the next -/
def joined (sep : List α) : List (List α) → List α
  | [] => []
  | [t] => t
  | t :: ts => t ++ sep ++ joined sep ts

theorem consFirst_ne_nil (c : α) (ps : List (List α)) : consFirst c ps ≠ [] := by
  cases ps <;> simp [consFirst]

theorem parts_ne_nil [DecidableEq α] (sep : α) (t : List α) : parts sep t ≠ [] := by
  cases t with
  | nil => simp [parts]
  | cons c t =>
    rw [parts]
    split
    · simp
    · exact consFirst_ne_nil c _

theorem joined_cons {ts : List (List α)} (sep t : List α) (h : ts ≠ []) :
    joined sep (t :: ts) = t ++ sep ++ joined sep ts := by
  cases ts with
  | nil => exact absurd rfl h
  | cons a ts => rfl

theorem joined_consFirst {ps : List (List α)} (sep : List α) (c : α) (h : ps ≠ []) :
    joined sep (consFirst c ps) = c :: joined sep ps := by
  cases ps with
  | nil => exact absurd rfl h
  | cons p ps =>
    cases ps with
    | nil => rfl
    | cons q ps => rfl

theorem joined_parts [DecidableEq α] (sep : α) (t : List α) : joined [sep] (parts sep t) = t := by
  induction t with
  | nil => rfl
  | cons c t ih =>
    rw [parts]
    split
    · rename_i h
      rw [joined_cons _ _ (parts_ne_nil sep t), ih, h]
      rfl
    · rw [joined_consFirst _ _ (parts_ne_nil sep t), ih]

/-- a list without the separator is one part -/
theorem parts_of_notMem [DecidableEq α] {sep : α} {t : List α} (h : sep ∉ t) : parts sep t = [t] := by
  induction t with
  | nil => rfl
  | cons c t ih =>
    have hc : c ≠ sep := fun heq => h (heq ▸ List.mem_cons_self)
    have ht : sep ∉ t := fun hmem => h (List.mem_cons_of_mem c hmem)
    rw [parts, if_neg hc, ih ht]
    rfl

theorem parts_append_cons [DecidableEq α] {sep : α} {t : List α} (h : sep ∉ t) (s : List α) :
    parts sep (t ++ sep :: s) = t :: parts sep s := by
  induction t with
  | nil =>
    rw [List.nil_append, parts, if_pos rfl]
  | cons c t ih =>
    have hc : c ≠ sep := fun heq => h (heq ▸ List.mem_cons_self)
    have ht : sep ∉ t := fun hmem => h (List.mem_cons_of_mem c hmem)
    rw [List.cons_append, parts, if_neg hc, ih ht]
    rfl

/-- lists without the separator are found again -/
theorem parts_joined [DecidableEq α] {sep : α} {ts : List (List α)} (hne : ts ≠ []) (h : ∀ t ∈ ts, sep ∉ t) :
    parts sep (joined [sep] ts) = ts := by
  induction ts with
  | nil => exact absurd rfl hne
  | cons t ts ih =>
    obtain ⟨ht, hts⟩ := List.forall_mem_cons.1 h
    by_cases hlast : ts = []
    · rw [hlast, joined, parts_of_notMem ht]
    · rw [joined_cons [sep] t hlast, List.append_assoc, List.singleton_append, parts_append_cons ht, ih hlast hts]

example : parts '.' "a..b".toList = ["a".toList, [], "b".toList] := by decide

end CallFeed.Text
