import Mathlib.Algebra.GroupWithZero.Nat
import Mathlib.Data.List.Basic
import Mathlib.Tactic.Common

namespace Storage

section Cut

/-- The parts before and after the first occurrence of a pattern. -/
def cutAt (pattern : List Char) : List Char → Option (List Char × List Char)
  | [] => if pattern = [] then some ([], []) else none
  | char :: rest =>
      if pattern.isPrefixOf (char :: rest) then some ([], (char :: rest).drop pattern.length)
      else (cutAt pattern rest).map fun parts => (char :: parts.1, parts.2)

/-- The text up to the pattern stands in front of the first part. -/
def prepend (front : List Char) (parts : List Char × List Char) : List Char × List Char := (front ++ parts.1, parts.2)

@[simp] theorem map_prepend_nil (cut : Option (List Char × List Char)) : cut.map (prepend []) = cut := by
  cases cut <;> rfl

theorem cutAt_sound {pattern text front rest : List Char} (cut : cutAt pattern text = some (front, rest)) :
    text = front ++ pattern ++ rest := by
  induction text generalizing front with
  | nil =>
      rw [cutAt] at cut
      split at cut
      · rename_i empty
        cases cut
        rw [empty]
        rfl
      · cases cut
  | cons char tail ih =>
      rw [cutAt] at cut
      split at cut
      · rename_i matched
        obtain ⟨more, whole⟩ := List.isPrefixOf_iff_prefix.mp matched
        obtain ⟨rfl, rfl⟩ := Prod.mk.inj (Option.some.inj cut)
        rw [← whole, List.drop_left, List.nil_append]
      · obtain ⟨parts, found, same⟩ := Option.map_eq_some_iff.mp cut
        obtain ⟨rfl, rfl⟩ := Prod.mk.inj same
        rw [ih found]
        rfl

/-- The pattern itself is cut at once. -/
theorem cutAt_pattern (pattern rest : List Char) : cutAt pattern (pattern ++ rest) = some ([], rest) := by
  cases text : pattern ++ rest with
  | nil =>
      obtain ⟨rfl, rfl⟩ := List.append_eq_nil_iff.mp text
      rfl
  | cons char tail =>
      have matched : pattern.isPrefixOf (char :: tail) = true := by
        rw [← text]
        exact List.isPrefixOf_iff_prefix.mpr (List.prefix_append _ _)
      rw [cutAt, if_pos matched, ← text, List.drop_left]

/-- What follows does not move the first occurrence. -/
theorem cutAt_append {pattern text front rest : List Char} (cut : cutAt pattern text = some (front, rest))
    (more : List Char) : cutAt pattern (text ++ more) = some (front, rest ++ more) := by
  induction text generalizing front with
  | nil =>
      rw [cutAt] at cut
      split at cut
      · rename_i empty
        cases cut
        rw [empty]
        exact cutAt_pattern [] more
      · cases cut
  | cons char tail ih =>
      have long := congrArg List.length (cutAt_sound cut)
      rw [cutAt] at cut
      split at cut
      · rename_i matched
        obtain ⟨after, whole⟩ := List.isPrefixOf_iff_prefix.mp matched
        obtain ⟨rfl, rfl⟩ := Prod.mk.inj (Option.some.inj cut)
        rw [← whole, List.drop_left, List.append_assoc, cutAt_pattern]
      · rename_i unmatched
        obtain ⟨parts, found, same⟩ := Option.map_eq_some_iff.mp cut
        obtain ⟨rfl, rfl⟩ := Prod.mk.inj same
        have still : ¬ pattern.isPrefixOf (char :: (tail ++ more)) = true := by
          intro matched
          have whole := List.isPrefixOf_iff_prefix.mp matched
          rw [← List.cons_append] at whole
          apply unmatched
          refine List.isPrefixOf_iff_prefix.mpr (List.prefix_of_prefix_length_le whole (List.prefix_append _ _) ?_)
          simp only [List.length_append, List.length_cons] at long ⊢
          omega
        rw [List.cons_append, cutAt, if_neg still, ih found]
        rfl

/-- A text that ends with the first occurrence holds no occurrence in front of its end. -/
theorem cutAt_short {pattern kept lost front : List Char} (cut : cutAt pattern (kept ++ lost) = some (front, []))
    (shorter : lost ≠ []) : cutAt pattern kept = none := by
  cases found : cutAt pattern kept with
  | none => rfl
  | some parts =>
      rw [cutAt_append found lost] at cut
      have rest := congrArg Prod.snd (Option.some.inj cut)
      exact absurd (List.append_eq_nil_iff.mp rest).2 shorter

end Cut

/-- The name of a tag, as it stands between the angle brackets. -/
structure TagName where
  chars : List Char
  plain : '<' ∉ chars ∧ '>' ∉ chars

/-- A text without markup. -/
structure PlainText where
  chars : List Char
  plain : '<' ∉ chars

inductive Markup where
  | tag (name : TagName)
  | text (content : PlainText)

section Render

def tagText (name : List Char) : List Char := '<' :: (name ++ ['>'])

def TagName.close (name : TagName) : TagName :=
  ⟨'/' :: name.chars, by simp [name.plain.1], by simp [name.plain.2]⟩

namespace Markup

def render : Markup → List Char
  | .tag name => tagText name.chars
  | .text content => content.chars

def renderAll (pieces : List Markup) : List Char := pieces.flatMap render

/-- Another tag than this one, or a text. -/
def Differs (name : List Char) : Markup → Prop
  | .tag other => other.chars ≠ name
  | .text _ => True

/-- The tag does not stand among the pieces. -/
def Lacks (name : List Char) (pieces : List Markup) : Prop := ∀ piece ∈ pieces, piece.Differs name

@[simp] theorem renderAll_nil : renderAll [] = [] := rfl

@[simp] theorem renderAll_cons (piece : Markup) (pieces : List Markup) :
    renderAll (piece :: pieces) = piece.render ++ renderAll pieces := rfl

@[simp] theorem renderAll_append (first second : List Markup) :
    renderAll (first ++ second) = renderAll first ++ renderAll second := List.flatMap_append

@[simp] theorem lacks_nil (name : List Char) : Lacks name [] := fun _ member => (by cases member)

@[simp] theorem lacks_cons {name : List Char} {piece : Markup} {pieces : List Markup} :
    Lacks name (piece :: pieces) ↔ piece.Differs name ∧ Lacks name pieces := List.forall_mem_cons

@[simp] theorem lacks_append {name : List Char} {first second : List Markup} :
    Lacks name (first ++ second) ↔ Lacks name first ∧ Lacks name second := List.forall_mem_append

@[simp] theorem differs_text (name : List Char) (content : PlainText) : (Markup.text content).Differs name ↔ True :=
  Iff.rfl

@[simp] theorem differs_tag (name : List Char) (other : TagName) :
    (Markup.tag other).Differs name ↔ other.chars ≠ name := Iff.rfl

end Markup
end Render

section CutMarkup

open Markup

/-- A tag does not start inside a text without brackets. -/
theorem cutAt_plain {name content : List Char} (plain : '<' ∉ content) (more : List Char) :
    cutAt (tagText name) (content ++ more) = (cutAt (tagText name) more).map (prepend content) := by
  induction content with
  | nil => simp
  | cons char rest ih =>
      rw [List.mem_cons, not_or] at plain
      have unmatched : ¬ (tagText name).isPrefixOf (char :: (rest ++ more)) = true := by
        intro matched
        obtain ⟨after, whole⟩ := List.isPrefixOf_iff_prefix.mp matched
        exact plain.1 (List.cons.inj whole).1
      rw [List.cons_append, cutAt, if_neg unmatched, ih plain.2, Option.map_map]
      rfl

/-- Names that are followed by the same bracket are equal. -/
theorem name_unique {first second more : List Char} {bracket : Char} (plainFirst : bracket ∉ first)
    (plainSecond : bracket ∉ second) (start : first ++ [bracket] <+: second ++ bracket :: more) : first = second := by
  induction first generalizing second with
  | nil =>
      cases second with
      | nil => rfl
      | cons char rest =>
          obtain ⟨after, whole⟩ := start
          exact absurd (List.mem_cons.mpr (.inl (List.cons.inj whole).1)) plainSecond
  | cons char rest ih =>
      cases second with
      | nil =>
          obtain ⟨after, whole⟩ := start
          exact absurd (List.mem_cons.mpr (.inl (List.cons.inj whole).1.symm)) plainFirst
      | cons other tail =>
          rw [List.cons_append, List.cons_append, List.cons_prefix_cons] at start
          rw [List.mem_cons, not_or] at plainFirst plainSecond
          rw [start.1, ih plainFirst.2 plainSecond.2 start.2]

/-- Another tag is passed over. -/
theorem cutAt_other {name : List Char} {other : TagName} (plain : '>' ∉ name) (different : other.chars ≠ name)
    (more : List Char) :
    cutAt (tagText name) (tagText other.chars ++ more) =
      (cutAt (tagText name) more).map (prepend (tagText other.chars)) := by
  have unmatched : ¬ (tagText name).isPrefixOf ('<' :: (other.chars ++ '>' :: more)) = true := by
    intro matched
    have start := List.isPrefixOf_iff_prefix.mp matched
    rw [tagText, List.cons_prefix_cons] at start
    exact different (name_unique plain other.plain.2 start.2).symm
  have tail : '<' ∉ other.chars ++ ['>'] := by
    simp [other.plain.1]
  have shape : tagText other.chars ++ more = '<' :: (other.chars ++ '>' :: more) := by
    simp [tagText]
  have inner : other.chars ++ '>' :: more = other.chars ++ ['>'] ++ more := by
    simp
  rw [shape, cutAt, if_neg unmatched, inner, cutAt_plain tail, Option.map_map]
  rfl

/-- Pieces without the tag are passed over. -/
theorem cutAt_lacks {name : List Char} {pieces : List Markup} (plain : '>' ∉ name) (lacks : Lacks name pieces)
    (more : List Char) :
    cutAt (tagText name) (renderAll pieces ++ more) =
      (cutAt (tagText name) more).map (prepend (renderAll pieces)) := by
  induction pieces with
  | nil => simp
  | cons piece rest ih =>
      obtain ⟨differs, lacks⟩ := lacks_cons.mp lacks
      have passed : cutAt (tagText name) (piece.render ++ (renderAll rest ++ more)) =
          (cutAt (tagText name) (renderAll rest ++ more)).map (prepend piece.render) := by
        cases piece with
        | tag other => exact cutAt_other plain differs _
        | text content => exact cutAt_plain content.plain _
      rw [renderAll_cons, List.append_assoc, passed, ih lacks, Option.map_map]
      refine congrFun (congrArg Option.map ?_) _
      funext parts
      simp [prepend]

theorem cutAt_nil (name : List Char) : cutAt (tagText name) [] = none := rfl

theorem cutAt_absent {name : List Char} {pieces : List Markup} (plain : '>' ∉ name) (lacks : Lacks name pieces) :
    cutAt (tagText name) (renderAll pieces) = none := by
  have passed := cutAt_lacks plain lacks []
  rwa [List.append_nil, cutAt_nil, Option.map_none] at passed

/-- The first tag of a name is found behind the pieces without it. -/
theorem cutAt_found {name : List Char} {pieces : List Markup} (plain : '>' ∉ name) (lacks : Lacks name pieces)
    (more : List Char) : cutAt (tagText name) (renderAll pieces ++ (tagText name ++ more)) = some (renderAll pieces, more) := by
  rw [cutAt_lacks plain lacks, cutAt_pattern]
  simp [prepend]

end CutMarkup
end Storage
