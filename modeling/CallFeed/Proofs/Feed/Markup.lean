/-
Markup whose contents cannot imitate it.

A content holds no bracket, no ampersand and no newline. So between two tags there is no other, however much a content
looks like the name of one, and whoever looks for a tag or keeps account of the open ones goes over an element in whole
pieces: its opening tag, its content, its closing tag.

- `passes_element`: inside an element a reader comes out of another one as it went in;
- `run?_element`: an element by itself leaves no tag open;
- `skips_element`: a tag is not found in an element of another name;
- `between?_element`: behind such elements, the content of the first of a name is found by it.
-/
import CallFeed.Feed.Fields
import CallFeed.Feed.Scan
import CallFeed.Proofs.Event.Plain
import CallFeed.Proofs.Feed.Records

namespace CallFeed.Feed

open CallFeed.Text

/-! ## Contents and names -/

/-- a character that markup and lines are not made of -/
def IsContent (c : Char) : Prop := c ≠ '<' ∧ c ≠ '>' ∧ c ≠ '&' ∧ c ≠ '\n'

instance (c : Char) : Decidable (IsContent c) := inferInstanceAs (Decidable (_ ∧ _))

def Content (t : Text) : Prop := ∀ c ∈ t, IsContent c

instance (t : Text) : Decidable (Content t) := List.decidableBAll _ t

theorem content_of_plain {t : Text} (h : Plain t) : Content t := by
  intro c hc
  have hp := h c hc
  refine ⟨?_, ?_, ?_, ?_⟩ <;> rintro rfl <;> revert hp <;> decide

theorem content_append {s t : Text} : Content (s ++ t) ↔ Content s ∧ Content t := List.forall_mem_append

/-- the name of a tag -/
def IsTag (tag : Text) : Prop := tag ≠ [] ∧ ∀ c ∈ tag, c.isAlphanum = true

instance (tag : Text) : Decidable (IsTag tag) := @instDecidableAnd _ _ _ (List.decidableBAll _ tag)

theorem IsTag.not_mem {tag : Text} (h : IsTag tag) {c : Char} (hc : c.isAlphanum = false) : c ∉ tag := by
  intro hm
  have := h.2 c hm
  rw [hc] at this
  cases this

/-- a closing tag is a tag whose name starts with a slash -/
theorem closeTag_eq (tag : Text) : closeTag tag = openTag ('/' :: tag) := rfl

/-- what a bracket holds ends at the first closing one -/
theorem span_name {name : Text} (h : '>' ∉ name) (rest : Text) :
    (name ++ '>' :: rest).takeWhile (· != '>') = name ∧ (name ++ '>' :: rest).dropWhile (· != '>') = '>' :: rest := by
  have hall : ∀ c ∈ name, (c != '>') = true := fun c hc => bne_iff_ne.2 fun e => h (e ▸ hc)
  rw [List.takeWhile_append_of_pos hall, List.dropWhile_append_of_pos hall]
  exact ⟨List.append_nil name, rfl⟩

/-! ## The open tags -/

section Scan

variable {s : Scan}

theorem run?_tag {name : Text} (h : '>' ∉ name) (rest : Text) :
    s.run? (openTag name ++ rest) = (s.tag? name).bind fun s' => s'.run? rest := by
  have ht : openTag name ++ rest = '<' :: (name ++ '>' :: rest) := by simp [openTag]
  obtain ⟨htake, hdrop⟩ := span_name h rest
  rw [ht, Scan.run?, if_pos rfl, if_pos (by simp), htake, hdrop]
  cases s.tag? name with
  | none => rfl
  | some s' => rfl

theorem run?_openTag {tag : Text} (h : IsTag tag) (rest : Text) :
    s.run? (openTag tag ++ rest) = (s.enter tag).run? rest := by
  have hname : tag.head? ≠ some '/' := fun he => h.not_mem (c := '/') (by decide) (List.mem_of_head? he)
  have hall : tag.all Char.isAlphanum = true := List.all_eq_true.2 h.2
  rw [run?_tag (h.not_mem (by decide)), Scan.tag?, if_neg hname, if_pos (by simp [h.1, hall])]
  rfl

/-- a closing tag leaves what stood open around its own -/
theorem run?_closeTag {tag : Text} (h : IsTag tag) (outer : List Text) (roots : Nat) (rest : Text) :
    Scan.run? ⟨tag :: outer, roots⟩ (closeTag tag ++ rest) = Scan.run? ⟨outer, roots⟩ rest := by
  have hname : '>' ∉ '/' :: tag := by
    rw [List.mem_cons, not_or]
    exact ⟨by decide, h.not_mem (by decide)⟩
  have htag : Scan.tag? ⟨tag :: outer, roots⟩ ('/' :: tag) = some ⟨outer, roots⟩ := by simp [Scan.tag?]
  rw [closeTag_eq, run?_tag hname, htag, Option.bind_some]

theorem run?_text (hs : s.opened ≠ []) (t : Text) : s.run? t =
    if (t.takeWhile (· != '<')).contains '>' then none else s.run? (t.dropWhile (· != '<')) := by
  cases t with
  | nil => rfl
  | cons c t =>
    by_cases hc : c = '<'
    · subst hc
      rfl
    · rw [Scan.run?, if_neg hc]
      simp [hs, hc]

/-- inside an element a reader comes out of the text as it went in -/
def Passes (t : Text) : Prop := ∀ (s : Scan) (rest : Text), s.opened ≠ [] → s.run? (t ++ rest) = s.run? rest

theorem passes_nil : Passes [] := fun _ _ _ => rfl

theorem Passes.append {t t' : Text} (h : Passes t) (h' : Passes t') : Passes (t ++ t') := by
  intro s rest hs
  rw [List.append_assoc, h s _ hs, h' s rest hs]

theorem passes_content {t : Text} (h : Content t) : Passes t := by
  intro s rest hs
  have hall : ∀ c ∈ t, (c != '<') = true := fun c hc => bne_iff_ne.2 (h c hc).1
  have hnone : t.contains '>' = false := by
    rw [List.contains_eq_mem, decide_eq_false_iff_not]
    exact fun hm => (h _ hm).2.1 rfl
  -- the reader takes all text up to the next tag at once, so what follows `t` is taken with it
  rw [run?_text hs (t ++ rest), run?_text hs rest, List.takeWhile_append_of_pos hall, List.dropWhile_append_of_pos hall,
    List.contains_append, hnone, Bool.false_or]

/-- **Inside an element a reader comes out of another one as it went in.** -/
theorem passes_element {tag content : Text} (ht : IsTag tag) (hc : Passes content) : Passes (element tag content) := by
  intro s rest hs
  have hentered : (s.enter tag).opened ≠ [] := List.cons_ne_nil _ _
  rw [element_eq, List.append_assoc, List.append_assoc, run?_openTag ht, hc _ _ hentered, Scan.enter, if_neg hs,
    run?_closeTag ht]

theorem passes_elements {fs : List (Text × Text)} (h : ∀ f ∈ fs, IsTag f.1 ∧ Content f.2) :
    Passes (fs.flatMap fun f => element f.1 f.2) := by
  induction fs with
  | nil => exact passes_nil
  | cons f fs ih =>
    obtain ⟨ht, hc⟩ := h f List.mem_cons_self
    exact (passes_element ht (passes_content hc)).append (ih fun f' hf' => h f' (List.mem_cons_of_mem f hf'))

/-- **An element by itself leaves no tag open**, and is one. -/
theorem run?_element {tag content : Text} (ht : IsTag tag) (hc : Passes content) :
    Scan.run? {} (element tag content) = some ⟨[], 1⟩ := by
  have hentered : (Scan.enter {} tag).opened ≠ [] := List.cons_ne_nil _ _
  have hend := run?_closeTag ht [] 1 []
  rw [List.append_nil] at hend
  rw [element_eq, List.append_assoc, run?_openTag ht, hc _ _ hentered, Scan.enter, if_pos rfl, hend, Scan.run?]

end Scan

/-! ## Well-formed lines -/

theorem not_mem_element {tag content : Text} {c : Char} (hc : c = '&' ∨ c = '\n') (ht : IsTag tag)
    (hcontent : c ∉ content) : c ∉ element tag content := by
  have htag : c ∉ tag := ht.not_mem (by rcases hc with rfl | rfl <;> decide)
  have hmarks : c ≠ '<' ∧ c ≠ '>' ∧ c ≠ '/' := by rcases hc with rfl | rfl <;> decide
  simp [element, htag, hcontent, hmarks]

theorem not_mem_elements {fs : List (Text × Text)} {c : Char} (hc : c = '&' ∨ c = '\n')
    (h : ∀ f ∈ fs, IsTag f.1 ∧ Content f.2) : c ∉ fs.flatMap fun f => element f.1 f.2 := by
  intro hm
  obtain ⟨f, hf, hcf⟩ := List.mem_flatMap.1 hm
  obtain ⟨ht, hcontent⟩ := h f hf
  refine not_mem_element hc ht (fun hm => ?_) hcf
  obtain ⟨-, -, hentity, hnewline⟩ := hcontent c hm
  rcases hc with rfl | rfl
  · exact hentity rfl
  · exact hnewline rfl

/-- **An element of elements that hold no markup is well formed**, and its newline is the only one. -/
theorem wellFormed_element {tag : Text} {fs : List (Text × Text)} (ht : IsTag tag)
    (h : ∀ f ∈ fs, IsTag f.1 ∧ Content f.2) :
    wellFormed (element tag (fs.flatMap fun f => element f.1 f.2) ++ ['\n']) = true := by
  have hscan := run?_element ht (passes_elements h)
  have hnewline := not_mem_element (.inr rfl) ht (not_mem_elements (.inr rfl) h)
  have hentity := not_mem_element (.inl rfl) ht (not_mem_elements (.inl rfl) h)
  unfold wellFormed
  rw [List.getLast?_concat, List.dropLast_concat, hscan]
  simp [hnewline, hentity]

/-! ## Finding tags -/

/-- a text is not in another, nor does it start there and go on behind it -/
def Skips (needle t : Text) : Prop := ∀ rest, place? needle (t ++ rest) = (place? needle rest).map (· + t.length)

theorem skips_nil (needle : Text) : Skips needle [] := by
  intro rest
  simp

theorem Skips.append {needle s t : Text} (hs : Skips needle s) (ht : Skips needle t) : Skips needle (s ++ t) := by
  intro rest
  rw [List.append_assoc, hs, ht, Option.map_map, List.length_append]
  congr 1
  funext n
  simp only [Function.comp_apply]
  omega

theorem skips_cons {needle t : Text} {c : Char} (hc : ∀ rest, ¬ needle <+: c :: (t ++ rest)) (ht : Skips needle t) :
    Skips needle (c :: t) := by
  intro rest
  have hp : needle.isPrefixOf (c :: (t ++ rest)) = false := by
    rw [Bool.eq_false_iff, ne_eq, List.isPrefixOf_iff_prefix]
    exact hc rest
  rw [List.cons_append, place?, hp, ht, Option.map_map]
  rfl

/-- no tag starts in a text without an opening bracket -/
theorem skips_of_not_mem {t : Text} (name : Text) (h : '<' ∉ t) : Skips (openTag name) t := by
  induction t with
  | nil => exact skips_nil _
  | cons c t ih =>
    rw [List.mem_cons, not_or] at h
    refine skips_cons (fun rest hp => ?_) (ih h.2)
    exact h.1 (List.cons_prefix_cons.1 hp).1

/-- a tag starts no tag of another name -/
theorem eq_of_isPrefix_tag {a b rest : Text} (ha : '>' ∉ a) (hb : '>' ∉ b) (h : a ++ ['>'] <+: b ++ '>' :: rest) :
    a = b := by
  obtain ⟨u, hu⟩ := h
  rw [List.append_assoc, List.singleton_append] at hu
  have htake := congrArg (List.takeWhile (· != '>')) hu
  rwa [(span_name ha u).1, (span_name hb rest).1] at htake

theorem skips_tag {a b : Text} (ha : '>' ∉ a) (hb : '>' ∉ b ∧ '<' ∉ b) (hne : a ≠ b) :
    Skips (openTag a) (openTag b) := by
  have hrest : '<' ∉ b ++ ['>'] := by
    rw [List.mem_append, not_or]
    exact ⟨hb.2, by decide⟩
  refine skips_cons (fun rest hp => ?_) (skips_of_not_mem a hrest)
  have hname : a ++ ['>'] <+: b ++ '>' :: rest := by simpa using (List.cons_prefix_cons.1 hp).2
  exact hne (eq_of_isPrefix_tag ha hb.1 hname)

/-- neither tag of a name is found in an element of another -/
theorem skips_element {other tag content : Text} (ho : IsTag other) (ht : IsTag tag) (hne : other ≠ tag)
    (hc : Content content) :
    Skips (openTag other) (element tag content) ∧ Skips (closeTag other) (element tag content) := by
  have hslash {name : Text} (h : IsTag name) : '/' ∉ name := h.not_mem (by decide)
  have hopener {name : Text} (h : IsTag name) : '<' ∉ name := h.not_mem (by decide)
  have hcloser {name : Text} (h : IsTag name) : '>' ∉ name := h.not_mem (by decide)
  have hclosing {name : Text} (h : IsTag name) : '>' ∉ '/' :: name ∧ '<' ∉ '/' :: name := by
    simp only [List.mem_cons, not_or]
    exact ⟨⟨by decide, hcloser h⟩, by decide, hopener h⟩
  have hcontent : '<' ∉ content := fun hm => (hc _ hm).1 rfl
  rw [element_eq, closeTag_eq, closeTag_eq]
  -- a closing tag is a tag whose name starts with a slash, so the four cases are those of two names
  constructor
  · have hopen := skips_tag (hcloser ho) ⟨hcloser ht, hopener ht⟩ hne
    have hclose := skips_tag (hcloser ho) (hclosing ht) fun e => hslash ho (e ▸ List.mem_cons_self)
    exact (hopen.append (skips_of_not_mem other hcontent)).append hclose
  · have hopen := skips_tag (hclosing ho).1 ⟨hcloser ht, hopener ht⟩ fun e => hslash ht (e ▸ List.mem_cons_self)
    have hclose := skips_tag (hclosing ho).1 (hclosing ht) fun e => hne (List.cons.inj e).2
    exact (hopen.append (skips_of_not_mem ('/' :: other) hcontent)).append hclose

theorem skips_elements {other : Text} {fs : List (Text × Text)} (ho : IsTag other)
    (h : ∀ f ∈ fs, IsTag f.1 ∧ Content f.2) (hne : ∀ f ∈ fs, other ≠ f.1) :
    Skips (openTag other) (fs.flatMap fun f => element f.1 f.2) ∧
      Skips (closeTag other) (fs.flatMap fun f => element f.1 f.2) := by
  induction fs with
  | nil => exact ⟨skips_nil _, skips_nil _⟩
  | cons f fs ih =>
    obtain ⟨ht, hc⟩ := h f List.mem_cons_self
    obtain ⟨hopen, hclose⟩ := skips_element ho ht (hne f List.mem_cons_self) hc
    obtain ⟨hopens, hcloses⟩ := ih (fun f' hf' => h f' (List.mem_cons_of_mem f hf'))
      fun f' hf' => hne f' (List.mem_cons_of_mem f hf')
    exact ⟨hopen.append hopens, hclose.append hcloses⟩

theorem place?_self (name rest : Text) : place? (openTag name) (openTag name ++ rest) = some 0 := by
  have hp : (openTag name).isPrefixOf (openTag name ++ rest) = true :=
    List.isPrefixOf_iff_prefix.2 (List.prefix_append _ _)
  rw [openTag, List.cons_append, List.cons_append] at *
  rw [place?, hp]
  rfl

/-- **Behind a text that neither of its tags is in, an element's content is found by its name.** -/
theorem between?_element {tag content front : Text} (ht : IsTag tag) (hc : Content content)
    (hopen : Skips (openTag tag) front) (hclose : Skips (closeTag tag) front) (rest : Text) :
    between? tag (front ++ (element tag content ++ rest)) = some content := by
  have hplace : place? (openTag tag) (front ++ (element tag content ++ rest)) = some front.length := by
    rw [hopen, element_eq, List.append_assoc, List.append_assoc, place?_self]
    simp
  -- the closing tag is met neither in the opening one nor in the content, so the first is the element's own
  have hself : Skips (closeTag tag) (openTag tag) := by
    refine skips_tag ?_ ⟨ht.not_mem (by decide), ht.not_mem (by decide)⟩ ?_
    · rw [List.mem_cons, not_or]
      exact ⟨by decide, ht.not_mem (by decide)⟩
    · intro e
      exact ht.not_mem (c := '/') (by decide) (e ▸ List.mem_cons_self)
  have hcontent : Skips (closeTag tag) content := skips_of_not_mem ('/' :: tag) fun hm => (hc _ hm).1 rfl
  have hsplit : front ++ (element tag content ++ rest) =
      (front ++ openTag tag ++ content) ++ (closeTag tag ++ rest) := by
    simp [element_eq]
  have hend : place? (closeTag tag) (front ++ (element tag content ++ rest)) =
      some (front ++ openTag tag ++ content).length := by
    rw [hsplit, (hclose.append hself).append hcontent, closeTag_eq, place?_self]
    simp
  have hstart : front.length + (openTag tag).length = (front ++ openTag tag).length := List.length_append.symm
  have hle : (front ++ openTag tag).length ≤ (front ++ openTag tag ++ content).length :=
    (List.prefix_append _ content).length_le
  unfold between?
  rw [hplace, hend]
  simp only [hstart, if_pos hle]
  rw [hsplit, List.take_left, List.drop_left]

end CallFeed.Feed
