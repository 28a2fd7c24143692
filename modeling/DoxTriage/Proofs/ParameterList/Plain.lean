import DoxTriage.Proofs.ParameterList
import DoxTriage.Proofs.Text.Rows
import DoxTriage.Proofs.Text.Word
import Mathlib.Data.List.DropRight

/-!
# Plain parameter lists

The search for a name knows nothing of types. On the lists that are written in practice it finds the
names of the parameters and nothing else, and what the types look like does not matter, as long as
there is no comma in them. What follows a name that counts is a comma or the end of the list, and
between a place inside a type and the next comma stands the name of the parameter. So something
closes behind the names only. A word stands there only if it is the whole name, because no part of a
word is in front of a name.

The argument is about the word at the end of a text, which is a function of the text
(`List.rtakeWhile`). It sees no further back than the last character that is no word part, so a list
can be taken apart from the front, one parameter at a time.

## Main definitions

* `ParameterList.Parameter`, `ParameterList.Parameter.IsPlain`: a type and a name.
* `ParameterList.write`: a list of parameters as it is written.
* `ParameterList.ClosesWord`: something closes in a text behind a word.

## Main results

* `ParameterList.closesWord_row_iff`: what closes in a list are the names.
* `ParameterList.declares_write_iff`: on a plain list, the search finds the names of the parameters.
-/

namespace DoxTriage

namespace ParameterList

/-- A parameter: its name, and the type in front of it. -/
structure Parameter where
  type : Text
  name : Text
  deriving DecidableEq, Repr

namespace Parameter

/-- The parameter as it is written. -/
def text (parameter : Parameter) : Text :=
  parameter.type ++ parameter.name

/-- The name is a word of its own, and the type has no comma. -/
structure IsPlain (parameter : Parameter) : Prop where
  comma_not_mem : ',' ∉ parameter.type
  type_ends : ∀ c ∈ parameter.type.getLast?, isWordPart c = false
  name_ne_nil : parameter.name ≠ []
  isWordPart_of_mem : ∀ c ∈ parameter.name, isWordPart c = true

theorem isPlain_iff {parameter : Parameter} :
    parameter.IsPlain ↔
      ',' ∉ parameter.type ∧ parameter.type.getLast?.all (! isWordPart ·) = true ∧
        parameter.name ≠ [] ∧ parameter.name.all isWordPart = true := by
  simp only [Option.all_eq_true, Bool.not_eq_true', List.all_eq_true]
  exact ⟨fun ⟨h₁, h₂, h₃, h₄⟩ => ⟨h₁, h₂, h₃, h₄⟩, fun ⟨h₁, h₂, h₃, h₄⟩ => ⟨h₁, h₂, h₃, h₄⟩⟩

instance (parameter : Parameter) : Decidable parameter.IsPlain :=
  decidable_of_iff _ isPlain_iff.symm

end Parameter

/-- Parameters with a comma between two neighbours, and the parenthesis that ends the list. -/
def row (parameters : List Parameter) : Text :=
  Text.join ", ".toList (parameters.map Parameter.text) ++ [')']

/-- A list of parameters as it is written. -/
def write (parameters : List Parameter) : Text :=
  '(' :: row parameters

variable {name s t : Text} {c : Char} {parameter : Parameter} {parameters : List Parameter}

theorem row_cons (parameter : Parameter) (parameters : List Parameter) :
    row (parameter :: parameters) =
      parameter.text ++ if parameters = [] then [')'] else ',' :: ' ' :: row parameters := by
  cases parameters with
  | nil => simp [row, Text.join]
  | cons next parameters =>
    rw [if_neg (List.cons_ne_nil next parameters), row, row, List.map_cons, List.map_cons,
      Text.join, List.intercalate_cons_cons, List.append_assoc, List.append_assoc]
    rfl

/-! ### The word at the end of a text -/

theorem toNat_of_isWordPart (h : isWordPart c = true) : 48 ≤ c.toNat ∧ c.toNat ≤ 122 := by
  have hranges : (decide (c.val ≥ 'A'.val ∧ c.val ≤ 'Z'.val) ||
      decide (c.val ≥ 'a'.val) && decide (c.val ≤ 'z'.val) ||
      decide (c.val ≥ '0'.val) && decide (c.val ≤ '9'.val) || decide (c = '_')) = true := h
  simp only [Bool.or_eq_true, Bool.and_eq_true, decide_eq_true_eq, UInt32.le_iff_toNat_le,
    ge_iff_le, Char.toNat_val, Char.reduceToNat] at hranges
  rcases hranges with ((h | h) | h) | rfl
  · omega
  · omega
  · omega
  · decide

/-- All blanks are below the parts of words or above them. -/
theorem isBlank_of_isWordPart (h : isWordPart c = true) : isBlank c = false := by
  have hranges : ∀ range ∈ blanks, range.2 < 48 ∨ 122 < range.1 := by decide
  obtain ⟨hlow, hhigh⟩ := toNat_of_isWordPart h
  rw [Bool.eq_false_iff]
  intro hblank
  obtain ⟨range, hrange, hin⟩ := List.any_eq_true.1 hblank
  have hout := hranges range hrange
  simp only [Bool.and_eq_true, decide_eq_true_eq] at hin
  omega

/-- The word at the end begins behind the last character that is no word part. -/
theorem rtakeWhile_append_cons (hc : isWordPart c = false) :
    (s ++ c :: t).rtakeWhile isWordPart = t.rtakeWhile isWordPart := by
  induction t using List.reverseRecOn with
  | nil =>
    rw [List.rtakeWhile_concat_neg _ _ _ (Bool.eq_false_iff.1 hc)]
    rfl
  | append_singleton t d ih =>
    rw [← List.cons_append, ← List.append_assoc, List.rtakeWhile_concat, List.rtakeWhile_concat, ih]

theorem Parameter.IsPlain.rtakeWhile_text (h : parameter.IsPlain) :
    parameter.text.rtakeWhile isWordPart = parameter.name := by
  have hname := List.rtakeWhile_eq_self_iff.2 h.isWordPart_of_mem
  rcases List.eq_nil_or_concat parameter.type with htype | ⟨front, c, htype⟩
  · rw [text, htype, List.nil_append, hname]
  · have hc : isWordPart c = false := h.type_ends c (by simp [htype])
    rw [text, htype, List.concat_append, rtakeWhile_append_cons hc, hname]

/-! ### Words that something closes behind -/

/-- At some place of the text a parameter is closed, and the word stands in front of the place. -/
def ClosesWord (s word : Text) : Prop :=
  ∃ front rest, s = front ++ rest ∧ front.rtakeWhile isWordPart = word ∧ Closes rest

/-- Between a part of a word and what closes a parameter stands a comma. -/
theorem comma_mem_of_closes (h : Closes (s ++ t)) (hmem : c ∈ s) (hc : isWordPart c = true) :
    ',' ∈ s := by
  obtain ⟨blanks, hblanks, h⟩ := h
  have hword := isBlank_of_isWordPart hc
  have hnot : c ∉ blanks := by
    intro hblank
    rw [hblanks c hblank] at hword
    cases hword
  rcases h with ⟨after, hst⟩ | hst
  · rcases List.append_eq_append_iff.1 hst with ⟨gap, rfl, -⟩ | ⟨front, rfl, hfront⟩
    · exact absurd (List.mem_append_left gap hmem) hnot
    · have hc' : c ∈ front := (List.mem_append.1 hmem).resolve_left hnot
      obtain ⟨d, others, rfl⟩ := List.exists_cons_of_ne_nil (List.ne_nil_of_mem hc')
      obtain ⟨rfl, -⟩ := List.cons.inj hfront
      exact List.mem_append_right _ (List.mem_cons_self ..)
  · have hparen : c ∈ blanks ++ [')'] := hst ▸ List.mem_append_left t hmem
    rw [List.mem_singleton.1 ((List.mem_append.1 hparen).resolve_left hnot)] at hc
    cases hc

/-- Inside a plain parameter nothing is closed. -/
theorem Parameter.IsPlain.eq_nil_of_closes {front back : Text} (h : parameter.IsPlain)
    (htext : parameter.text = front ++ back) (hcloses : Closes (back ++ s)) : back = [] := by
  have hcomma : ',' ∉ parameter.text := by
    refine Text.not_mem_append h.comma_not_mem fun hmem => ?_
    exact absurd (h.isWordPart_of_mem _ hmem) (by decide)
  rcases List.eq_nil_or_concat back with hnil | ⟨init, c, hback⟩
  · exact hnil
  · -- the last character of the parameter belongs to its name
    have hlast : parameter.name.getLast? = some c := by
      rw [← List.getLast?_append_of_ne_nil parameter.type h.name_ne_nil, ← text, htext, hback]
      simp
    have hc := h.isWordPart_of_mem c (List.mem_of_getLast? hlast)
    have hmem : c ∈ back := by rw [hback]; simp
    rw [htext] at hcomma
    exact absurd (List.mem_append_right front (comma_mem_of_closes hcloses hmem hc)) hcomma

theorem closesWord_cons {word : Text} (hc : isWordPart c = false) (hword : word ≠ []) :
    ClosesWord (c :: s) word ↔ ClosesWord s word := by
  have hfront : ∀ front, (c :: front).rtakeWhile isWordPart = front.rtakeWhile isWordPart :=
    fun front => rtakeWhile_append_cons (s := []) hc
  constructor
  · rintro ⟨front, rest, hs, hlast, hcloses⟩
    cases front with
    | nil => exact absurd hlast.symm hword
    | cons d front =>
      obtain ⟨rfl, rfl⟩ := List.cons.inj hs
      exact ⟨front, rest, rfl, (hfront front).symm.trans hlast, hcloses⟩
  · rintro ⟨front, rest, rfl, hlast, hcloses⟩
    exact ⟨c :: front, rest, rfl, (hfront front).trans hlast, hcloses⟩

theorem not_closesWord_nil {word : Text} : ¬ ClosesWord [] word := by
  rintro ⟨front, rest, hnil, -, hcloses⟩
  rw [(List.append_eq_nil_iff.1 hnil.symm).2, closes_iff] at hcloses
  rcases hcloses with hcomma | hparen
  · cases hcomma
  · cases hparen

/-- **A parameter, and what follows it.** -/
theorem closesWord_text_append {word : Text} (hplain : parameter.IsPlain)
    (hc : isWordPart c = false) :
    ClosesWord (parameter.text ++ c :: s) word ↔
      parameter.name = word ∧ Closes (c :: s) ∨ ClosesWord s word := by
  constructor
  · rintro ⟨front, rest, hs, hlast, hcloses⟩
    rcases List.append_eq_append_iff.1 hs with ⟨more, rfl, hrest⟩ | ⟨back, htext, rfl⟩
    · cases more with
      | nil =>
        rw [List.append_nil, hplain.rtakeWhile_text] at hlast
        exact .inl ⟨hlast, hrest ▸ hcloses⟩
      | cons d more =>
        obtain ⟨rfl, rfl⟩ := List.cons.inj hrest
        rw [rtakeWhile_append_cons hc] at hlast
        exact .inr ⟨more, rest, rfl, hlast, hcloses⟩
    · have hback : back = [] := hplain.eq_nil_of_closes htext hcloses
      rw [hback, List.append_nil] at htext
      rw [← htext, hplain.rtakeWhile_text] at hlast
      rw [hback] at hcloses
      exact .inl ⟨hlast, hcloses⟩
  · rintro (⟨hname, hcloses⟩ | ⟨front, rest, rfl, hlast, hcloses⟩)
    · exact ⟨parameter.text, c :: s, rfl, hplain.rtakeWhile_text.trans hname, hcloses⟩
    · refine ⟨parameter.text ++ c :: front, rest, by simp, ?_, hcloses⟩
      rw [rtakeWhile_append_cons hc, hlast]

/-- **What closes in a list are the names.** -/
theorem closesWord_row_iff {word : Text} (hplain : ∀ parameter ∈ parameters, parameter.IsPlain)
    (hword : word ≠ []) :
    ClosesWord (row parameters) word ↔ ∃ parameter ∈ parameters, parameter.name = word := by
  have hparen : isWordPart ')' = false := by decide
  have hcomma : isWordPart ',' = false := by decide
  have hspace : isWordPart ' ' = false := by decide
  induction parameters with
  | nil =>
    change ClosesWord [')'] word ↔ _
    rw [closesWord_cons hparen hword]
    exact iff_of_false not_closesWord_nil (by simp)
  | cons parameter parameters ih =>
    obtain ⟨hfirst, hothers⟩ := List.forall_mem_cons.1 hplain
    rw [row_cons, List.exists_mem_cons_iff]
    refine Iff.trans ?_ (or_congr_right (ih hothers))
    split
    · next hnil =>
      have hcloses : Closes [')'] := ⟨[], by simp, .inr rfl⟩
      rw [closesWord_text_append hfirst hparen, and_iff_left hcloses, hnil]
      change _ ↔ _ ∨ ClosesWord [')'] word
      rw [closesWord_cons hparen hword]
    · have hcloses : Closes (',' :: ' ' :: row parameters) := ⟨[], by simp, .inl ⟨_, rfl⟩⟩
      rw [closesWord_text_append hfirst hcomma, and_iff_left hcloses,
        closesWord_cons hspace hword]

/-! ### Plain lists -/

/-- Behind a parenthesis, the pattern fits where something closes behind the word. -/
theorem declared_iff_closesWord {list word : Text} (hlist : Text.trimEnd list = '(' :: s)
    (hne : word ≠ []) (hword : ∀ c ∈ word, isWordPart c = true) :
    Declared list word ↔ ClosesWord s word := by
  have hparen : isWordPart '(' = false := by decide
  rw [← closesWord_cons hparen hne, Declared, hlist]
  constructor
  · rintro ⟨before, c, rest, hs, hc, hcloses⟩
    refine ⟨before ++ c :: word, rest, by rw [hs]; simp, ?_, hcloses⟩
    rw [rtakeWhile_append_cons hc, List.rtakeWhile_eq_self_iff.2 hword]
  · rintro ⟨front, rest, hs, rfl, hcloses⟩
    have hfront : front.rdropWhile isWordPart ++ front.rtakeWhile isWordPart = front :=
      List.rdropWhile_append_rtakeWhile ..
    have hbehind : front.rdropWhile isWordPart ≠ [] := by
      rw [Ne, List.rdropWhile_eq_nil_iff]
      intro hall
      obtain ⟨d, others, rfl⟩ := List.exists_cons_of_ne_nil fun hnil : front = [] =>
        hne (by rw [hnil]; rfl)
      obtain ⟨rfl, -⟩ := List.cons.inj hs
      exact absurd (hall '(' (List.mem_cons_self ..)) (by decide)
    refine ⟨(front.rdropWhile isWordPart).dropLast, (front.rdropWhile isWordPart).getLast hbehind,
      rest, ?_, Bool.eq_false_iff.2 (List.rdropWhile_last_not _ _ hbehind), hcloses⟩
    rw [hs, List.append_cons, List.dropLast_concat_getLast, ← List.append_assoc, hfront]

theorem trimEnd_write_append {trail : Text} (htrail : ∀ c ∈ trail, isBlank c = true) :
    Text.trimEnd (write parameters ++ trail) = write parameters := by
  have hparen : isBlank ')' = false := by decide
  rw [Text.trimEnd_append htrail]
  simp [Text.trimEnd, write, row, hparen]

/-- **On a plain list, the search finds the names of the parameters**, and nothing else. -/
theorem declares_write_iff (hplain : ∀ parameter ∈ parameters, parameter.IsPlain) {trail : Text}
    (htrail : ∀ c ∈ trail, isBlank c = true) {word : Text}
    (hword : ∀ c ∈ word, isWordPart c = true) :
    declares (write parameters ++ trail) word = true ↔
      ∃ parameter ∈ parameters, parameter.name = word := by
  by_cases hne : word = []
  · subst hne
    refine iff_of_false (by simp [declares]) ?_
    rintro ⟨parameter, hparameter, hnil⟩
    exact (hplain parameter hparameter).name_ne_nil hnil
  · have hsearch : declares (write parameters ++ trail) word = true ↔
        Declared (write parameters ++ trail) word :=
      ⟨declared_of_declares, declares_of_declared hne (not_hidesItself_of_isWordPart hword)⟩
    rw [hsearch, declared_iff_closesWord (trimEnd_write_append htrail) hne hword,
      closesWord_row_iff hplain hne]

/-- The last name also stands in the first type, in front of a parenthesis, and at the ends of two
other words. A word of a type is no name. -/
theorem declares_write_iff_of_copies :
    let list := "(std::function<void (n)> *nn, const int &_n, n)\n".toList
    let parameters : List Parameter :=
      [⟨"std::function<void (n)> *".toList, "nn".toList⟩, ⟨"const int &".toList, "_n".toList⟩,
        ⟨[], "n".toList⟩]
    (∀ parameter ∈ parameters, parameter.IsPlain) ∧ list = write parameters ++ "\n".toList ∧
      declares list "n".toList = true ∧ declares list "int".toList = false := by
  intro list parameters
  have hplain : ∀ parameter ∈ parameters, parameter.IsPlain := by decide +kernel
  have hlist : list = write parameters ++ "\n".toList := by decide +kernel
  have htrail : ∀ c ∈ "\n".toList, isBlank c = true := List.all_eq_true.1 (by decide)
  have hiff : ∀ {word : Text}, (∀ c ∈ word, isWordPart c = true) →
      (declares list word = true ↔ ∃ parameter ∈ parameters, parameter.name = word) :=
    fun hword => hlist ▸ declares_write_iff hplain htrail hword
  refine ⟨hplain, hlist, (hiff (List.all_eq_true.1 (by decide))).2 (by decide +kernel), ?_⟩
  rw [Bool.eq_false_iff, Ne, hiff (List.all_eq_true.1 (by decide))]
  decide +kernel

end ParameterList

end DoxTriage
