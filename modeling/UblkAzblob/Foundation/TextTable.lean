import Mathlib.Algebra.GroupWithZero.Nat
import Mathlib.Tactic.Common
import Mathlib.Data.List.Basic

namespace Storage

section Splitting

/-- The text is cut at every separator. -/
def fields (separator : Char) : List Char → List (List Char)
  | [] => [[]]
  | char :: rest =>
      if char = separator then [] :: fields separator rest
      else match fields separator rest with
        | [] => [[char]]
        | first :: more => (char :: first) :: more

/-- A line that ends in a carriage return and a line feed loses both. -/
def stripReturn (line : List Char) : List Char :=
  if line.getLast? = some '\r' then line.dropLast else line

/-- The lines of a text; what follows the last line feed is a line of its own unless it is empty. -/
def lines (text : List Char) : List (List Char) :=
  (fields '\n' text).dropLast.map stripReturn ++ match (fields '\n' text).getLast? with
    | some (char :: rest) => [char :: rest]
    | _ => []

/-- The matching characters at both ends are dropped. -/
def trimBoth (matching : Char → Bool) (text : List Char) : List Char :=
  ((text.dropWhile matching).reverse.dropWhile matching).reverse

/-- The matching characters at the end are dropped. -/
def trimEnd (matching : Char → Bool) (text : List Char) : List Char := (text.reverse.dropWhile matching).reverse

/-- The parts before and after the first separator. -/
def splitOnce (separator : Char) : List Char → Option (List Char × List Char)
  | [] => none
  | char :: rest =>
      if char = separator then some ([], rest)
      else (splitOnce separator rest).map fun parts => (char :: parts.1, parts.2)

/-- At most this many parts, cut at the first separators; the last part keeps the others. -/
def splitN (separator : Char) : Nat → List Char → List (List Char)
  | 0, _ => []
  | 1, text => [text]
  | count + 2, text => match splitOnce separator text with
    | none => [text]
    | some (first, rest) => first :: splitN separator (count + 1) rest

/-- The text is cut at every matching character. -/
def cuts (matching : Char → Bool) : List Char → List (List Char)
  | [] => [[]]
  | char :: rest =>
      if matching char then [] :: cuts matching rest
      else match cuts matching rest with
        | [] => [[char]]
        | first :: more => (char :: first) :: more

/-- The words of a text are its parts between blanks. -/
def words (blank : Char → Bool) (text : List Char) : List (List Char) :=
  (cuts blank text).filter fun part => part ≠ []

theorem fields_ne_nil (separator : Char) (text : List Char) : fields separator text ≠ [] := by
  cases text with
  | nil => simp [fields]
  | cons char rest =>
      rw [fields]
      split
      · simp
      · split <;> simp

theorem fields_append {separator : Char} {first : List Char} (rest : List Char)
    (plain : separator ∉ first) :
    fields separator (first ++ separator :: rest) = first :: fields separator rest := by
  induction first with
  | nil => simp [fields]
  | cons char more ih =>
      rw [List.mem_cons, not_or] at plain
      rw [List.cons_append, fields, if_neg (Ne.symm plain.1), ih plain.2]

theorem fields_plain {separator : Char} {text : List Char} (plain : separator ∉ text) :
    fields separator text = [text] := by
  induction text with
  | nil => rfl
  | cons char rest ih =>
      rw [List.mem_cons, not_or] at plain
      rw [fields, if_neg (Ne.symm plain.1), ih plain.2]

/-- The parts hold the characters of the text but the separators. -/
theorem char_of_mem_fields {separator char : Char} {text part : List Char} (member : part ∈ fields separator text)
    (inside : char ∈ part) : char ∈ text ∧ char ≠ separator := by
  induction text generalizing part with
  | nil =>
      rw [fields, List.mem_singleton] at member
      rw [member] at inside
      cases inside
  | cons first rest ih =>
      rw [fields] at member
      split at member
      · rcases List.mem_cons.mp member with rfl | later
        · cases inside
        · exact ⟨List.mem_cons_of_mem _ (ih later inside).1, (ih later inside).2⟩
      · rename_i different
        cases parts : fields separator rest with
        | nil => exact absurd parts (fields_ne_nil separator rest)
        | cons front more =>
            rw [parts] at member ih
            rcases List.mem_cons.mp member with rfl | later
            · rcases List.mem_cons.mp inside with rfl | deeper
              · exact ⟨List.mem_cons_self, different⟩
              · obtain ⟨listed, other⟩ := ih List.mem_cons_self deeper
                exact ⟨List.mem_cons_of_mem _ listed, other⟩
            · obtain ⟨listed, other⟩ := ih (List.mem_cons_of_mem _ later) inside
              exact ⟨List.mem_cons_of_mem _ listed, other⟩

/-- The first part starts as the text does. -/
theorem fields_first {separator char : Char} {rest first : List Char} {more : List (List Char)}
    (split : fields separator (char :: rest) = first :: more) (different : char ≠ separator) :
    ∃ tail, first = char :: tail := by
  rw [fields, if_neg different] at split
  cases parts : fields separator rest with
  | nil => exact absurd parts (fields_ne_nil separator rest)
  | cons front later =>
      rw [parts] at split
      exact ⟨front, (List.cons.inj split).1.symm⟩

theorem mem_of_mem_stripReturn {line : List Char} {char : Char} (inside : char ∈ stripReturn line) : char ∈ line := by
  unfold stripReturn at inside
  split at inside
  · exact (List.dropLast_sublist _).subset inside
  · exact inside

/-- A line holds no line feed. -/
theorem unbroken_of_mem_lines {text line : List Char} (member : line ∈ lines text) : '\n' ∉ line := by
  intro broken
  rcases List.mem_append.mp member with earlier | last
  · obtain ⟨part, listed, rfl⟩ := List.mem_map.mp earlier
    exact (char_of_mem_fields ((List.dropLast_sublist _).subset listed) (mem_of_mem_stripReturn broken)).2 rfl
  · cases final : (fields '\n' text).getLast? with
    | none =>
        rw [final] at last
        cases last
    | some part =>
        rw [final] at last
        cases part with
        | nil => cases last
        | cons first rest =>
            rw [List.mem_singleton.mp last] at broken
            exact (char_of_mem_fields (List.mem_of_getLast? final) broken).2 rfl

theorem mem_of_mem_trimEnd {matching : Char → Bool} {text : List Char} {char : Char}
    (inside : char ∈ trimEnd matching text) : char ∈ text := by
  rw [trimEnd, List.mem_reverse] at inside
  exact List.mem_reverse.mp ((List.dropWhile_sublist matching).subset inside)

theorem mem_of_mem_trimBoth {matching : Char → Bool} {text : List Char} {char : Char}
    (inside : char ∈ trimBoth matching text) : char ∈ text :=
  (List.dropWhile_sublist matching).subset (mem_of_mem_trimEnd inside)

/-- What is left of a text after trimming starts with a character that does not match. -/
theorem trimBoth_head {matching : Char → Bool} {text rest : List Char} {char : Char}
    (left : trimBoth matching text = char :: rest) : matching char = false := by
  have front : char :: rest <+: text.dropWhile matching := by
    rw [← left, trimBoth, ← List.reverse_suffix, List.reverse_reverse]
    exact List.dropWhile_suffix matching
  obtain ⟨tail, whole⟩ := front
  have kept := List.head?_dropWhile_not matching text
  rw [← whole] at kept
  simpa using kept

theorem trimEnd_eq {matching : Char → Bool} {text : List Char}
    (last : ∀ char, text.getLast? = some char → matching char = false) : trimEnd matching text = text := by
  rw [trimEnd]
  cases back : text.reverse with
  | nil => simpa using back.symm
  | cons char rest =>
      have final : text.getLast? = some char := by rw [← List.head?_reverse, back, List.head?_cons]
      rw [List.dropWhile_cons, last char final, if_neg (by decide), ← back, List.reverse_reverse]

theorem splitOnce_append {separator : Char} {first : List Char} (rest : List Char)
    (plain : separator ∉ first) : splitOnce separator (first ++ separator :: rest) = some (first, rest) := by
  induction first with
  | nil => simp [splitOnce]
  | cons char more ih =>
      rw [List.mem_cons, not_or] at plain
      rw [List.cons_append, splitOnce, if_neg (Ne.symm plain.1), ih plain.2]
      rfl

/-- The two parts and the separator between them are the text. -/
theorem splitOnce_sound {separator : Char} {text first rest : List Char}
    (split : splitOnce separator text = some (first, rest)) :
    text = first ++ separator :: rest ∧ separator ∉ first := by
  induction text generalizing first with
  | nil => cases split
  | cons char more ih =>
      rw [splitOnce] at split
      split at split
      · rename_i same
        obtain ⟨rfl, rfl⟩ := Prod.mk.inj (Option.some.inj split)
        simp [same]
      · rename_i other
        obtain ⟨⟨front, back⟩, found, parts⟩ := Option.map_eq_some_iff.mp split
        obtain ⟨rfl, rfl⟩ := Prod.mk.inj parts
        obtain ⟨whole, plain⟩ := ih found
        refine ⟨by rw [whole, List.cons_append], ?_⟩
        rw [List.mem_cons, not_or]
        exact ⟨Ne.symm other, plain⟩

theorem cuts_append {matching : Char → Bool} {separator : Char} {first : List Char} (rest : List Char)
    (cut : matching separator = true) (plain : ∀ char ∈ first, matching char = false) :
    cuts matching (first ++ separator :: rest) = first :: cuts matching rest := by
  induction first with
  | nil => simp [cuts, cut]
  | cons char more ih =>
      rw [List.forall_mem_cons] at plain
      rw [List.cons_append, cuts, plain.1, if_neg (by decide), ih plain.2]

theorem cuts_plain {matching : Char → Bool} {text : List Char} (plain : ∀ char ∈ text, matching char = false) :
    cuts matching text = [text] := by
  induction text with
  | nil => rfl
  | cons char rest ih =>
      rw [List.forall_mem_cons] at plain
      rw [cuts, plain.1, if_neg (by decide), ih plain.2]

/-- Words that were printed with one blank between them are read back. -/
theorem words_intercalate {blank : Char → Bool} {separator : Char} (cut : blank separator = true)
    {tokens : List (List Char)}
    (plain : ∀ token ∈ tokens, token ≠ [] ∧ ∀ char ∈ token, blank char = false) :
    words blank ([separator].intercalate tokens) = tokens := by
  induction tokens with
  | nil => rfl
  | cons token rest ih =>
      rw [List.forall_mem_cons] at plain
      cases rest with
      | nil => simp [words, cuts_plain plain.1.2, plain.1.1]
      | cons next more =>
          have tail := ih plain.2
          rw [words] at tail
          rw [List.intercalate_cons_cons, List.append_assoc, List.singleton_append, words,
            cuts_append _ cut plain.1.2, List.filter_cons_of_pos (by simp [plain.1.1]), tail]

/-- Lines that were written with a line feed each are read back. -/
theorem lines_terminated {Row : Type} (rows : List Row) (line : Row → List Char)
    (unbroken : ∀ row ∈ rows, '\n' ∉ line row) (open' : ∀ row ∈ rows, (line row).getLast? ≠ some '\r') :
    lines (rows.flatMap fun row => line row ++ ['\n']) = rows.map line := by
  induction rows with
  | nil => simp [lines, fields]
  | cons row rest ih =>
      have tail := ih (fun other member => unbroken other (List.mem_cons_of_mem _ member))
        fun other member => open' other (List.mem_cons_of_mem _ member)
      rw [List.flatMap_cons, List.append_assoc, List.singleton_append, lines,
        fields_append _ (unbroken row (by simp)), List.dropLast_cons_of_ne_nil (fields_ne_nil _ _),
        List.getLast?_cons_of_ne_nil (fields_ne_nil _ _), List.map_cons, List.cons_append, ← lines, tail,
        stripReturn, if_neg (open' row (by simp)), List.map_cons]

/-- Rows that were printed on a line each are read back. -/
theorem filterMap_lines {Row : Type} {parse : List Char → Option Row} {print : Row → List Char} {rows : List Row}
    (unbroken : ∀ row ∈ rows, '\n' ∉ print row) (open' : ∀ row ∈ rows, (print row).getLast? ≠ some '\r')
    (parsed : ∀ row ∈ rows, parse (print row) = some row) :
    (lines (rows.flatMap fun row => print row ++ ['\n'])).filterMap parse = rows := by
  rw [lines_terminated rows print unbroken open', List.filterMap_map]
  conv_rhs => rw [← List.filterMap_some (l := rows)]
  apply List.filterMap_congr
  intro row member
  exact parsed row member

theorem trimBoth_eq {matching : Char → Bool} {text : List Char}
    (first : ∀ char, text.head? = some char → matching char = false)
    (last : ∀ char, text.getLast? = some char → matching char = false) : trimBoth matching text = text := by
  have start : text.dropWhile matching = text := by
    cases text with
    | nil => rfl
    | cons char rest => rw [List.dropWhile_cons, first char rfl, if_neg (by decide)]
  rw [trimBoth, start]
  exact trimEnd_eq last

/-- Matching characters around a text are dropped. -/
theorem trimBoth_padded {matching : Char → Bool} {front text back : List Char}
    (before : ∀ char ∈ front, matching char = true) (after : ∀ char ∈ back, matching char = true)
    (inner : text ≠ []) (plain : ∀ char ∈ text, matching char = false) :
    trimBoth matching (front ++ text ++ back) = text := by
  have start : (front ++ text ++ back).dropWhile matching = text ++ back := by
    rw [List.append_assoc, List.dropWhile_append_of_pos before]
    cases text with
    | nil => exact absurd rfl inner
    | cons char rest => rw [List.cons_append, List.dropWhile_cons, plain char List.mem_cons_self, if_neg (by decide)]
  have final : (text ++ back).reverse.dropWhile matching = text.reverse := by
    rw [List.reverse_append, List.dropWhile_append_of_pos fun char member => after char (List.mem_reverse.mp member)]
    cases turned : text.reverse with
    | nil => rfl
    | cons char rest =>
        have member : char ∈ text := by
          rw [← List.mem_reverse, turned]
          exact List.mem_cons_self
        rw [List.dropWhile_cons, plain char member, if_neg (by decide)]
  rw [trimBoth, start, final, List.reverse_reverse]

end Splitting

section Numbers

/-- An optional sign and decimal digits whose value is below the limit. -/
def parseUnsigned (limit : Nat) (text : List Char) : Option Nat :=
  let digits := match text with
    | '+' :: rest => rest
    | _ => text
  if digits ≠ [] ∧ digits.all Char.isDigit then
    let value := Nat.ofDigitChars 10 digits 0
    if value < limit then some value else none
  else none

/-- The decimal digits of a number. -/
def decimal (value : Nat) : List Char := Nat.toDigits 10 value

theorem decimal_ne_nil (value : Nat) : decimal value ≠ [] := Nat.toDigits_ne_nil

theorem isDigit_of_mem_decimal {value : Nat} {char : Char} (member : char ∈ decimal value) :
    char.isDigit = true :=
  Nat.isDigit_of_mem_toDigits (by decide) (by decide) member

theorem not_mem_decimal {value : Nat} {char : Char} (other : char.isDigit = false) :
    char ∉ decimal value := by
  intro member
  cases other.symm.trans (isDigit_of_mem_decimal member)

theorem parseUnsigned_lt {limit value : Nat} {text : List Char} (parsed : parseUnsigned limit text = some value) :
    value < limit := by
  unfold parseUnsigned at parsed
  extract_lets digits number at parsed
  split at parsed
  · split at parsed
    · rename_i below
      rwa [← Option.some.inj parsed]
    · cases parsed
  · cases parsed

/-- A printed number is read back. -/
theorem parseUnsigned_decimal {limit value : Nat} (below : value < limit) :
    parseUnsigned limit (decimal value) = some value := by
  have unsigned (rest : List Char) (start : decimal value = '+' :: rest) : False := by
    have member : '+' ∈ decimal value := by rw [start]; exact List.mem_cons_self
    exact not_mem_decimal (by decide) member
  rw [parseUnsigned, if_pos ⟨decimal_ne_nil value, List.all_eq_true.mpr fun _ => isDigit_of_mem_decimal⟩,
    decimal, Nat.ofDigitChars_ten_toDigits, if_pos below]
  exact unsigned

end Numbers
end Storage
