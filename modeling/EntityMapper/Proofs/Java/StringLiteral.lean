import EntityMapper.Java.Layout
import EntityMapper.QueryLibrary
import Mathlib.Data.List.Basic

/-!
# What string literals denote

The lexical rules of Java for string literals, over UTF-16 code units: Unicode escapes are replaced
first, whatever they stand in, and what is left is one literal if it has a quote at either end, no line
terminator and no other quote that stands unescaped. The text between quotes that is written for a
string is such a literal and denotes the string, unless the string holds a carriage return: that one is
a line terminator, too, and is not escaped (`stringValue?_quoted`).
-/
namespace EntityMapper.Java

/-- The code units of a character: two surrogates if it has a code point beyond the first 65536. -/
def codeUnits (c : Char) : List Nat :=
  if c.toNat < 0x10000 then [c.toNat]
  else [0xD800 + (c.toNat - 0x10000) / 0x400, 0xDC00 + (c.toNat - 0x10000) % 0x400]

def utf16 (s : String) : List Nat :=
  s.toList.flatMap codeUnits

/-- No surrogate is the code of an ASCII character. -/
theorem eq_of_mem_codeUnits {c d : Char} (ascii : d.toNat < 128) (member : d.toNat ∈ codeUnits c) :
    c = d := by
  rw [codeUnits] at member
  split at member
  · exact Char.toNat_inj.mp (List.mem_singleton.mp member).symm
  · simp only [List.mem_cons, List.not_mem_nil, or_false] at member
    omega

/-- No character's code units go on into those of another. -/
theorem codeUnits_append_inj {c d : Char} {rest other : List Nat}
    (same : codeUnits c ++ rest = codeUnits d ++ other) : c = d ∧ rest = other := by
  have unpaired (e : Char) : e.toNat < 0xD800 ∨ 0xDFFF < e.toNat ∧ e.toNat < 0x110000 := e.valid
  have here := unpaired c
  have there := unpaired d
  rw [← Char.toNat_inj]
  by_cases short : c.toNat < 0x10000 <;> by_cases also : d.toNat < 0x10000 <;>
    simp only [codeUnits, short, also, if_true, if_false, List.cons_append, List.nil_append,
      List.cons.injEq] at same
  · exact same
  · omega
  · omega
  · exact ⟨by omega, same.2.2⟩

/-- A string is known by its code units. -/
theorem utf16_injective : Function.Injective utf16 := by
  intro s t same
  apply String.toList_injective
  rw [utf16, utf16] at same
  generalize s.toList = first at same ⊢
  generalize t.toList = second at same ⊢
  have filled (c : Char) : codeUnits c ≠ [] := by
    rw [codeUnits]
    split <;> simp
  induction first generalizing second with
  | nil =>
    cases second with
    | nil => rfl
    | cons d second => simp [filled] at same
  | cons c first ih =>
    cases second with
    | nil => simp [filled] at same
    | cons d second =>
      obtain ⟨rfl, later⟩ := codeUnits_append_inj same
      rw [ih second later]

/-- Reads code units one by one and writes others; a unit that does not fit ends it without a result. -/
structure Transducer (State : Type) where
  start : State
  step : State → Nat → Option (List Nat × State)
  /-- What is still to be written at the end, if the end may come. -/
  finish : State → Option (List Nat)

namespace Transducer

variable {State : Type} (transducer : Transducer State)

/-- What has been written behind the units, and the state there. -/
def advance (state : State) : List Nat → Option (List Nat × State)
  | [] => some ([], state)
  | unit :: rest => do
    let (written, next) ← transducer.step state unit
    let (later, last) ← advance next rest
    return (written ++ later, last)

def read (units : List Nat) : Option (List Nat) := do
  let (written, last) ← transducer.advance transducer.start units
  let rest ← transducer.finish last
  return written ++ rest

variable {transducer}

theorem advance_append {state next : State} {units written : List Nat}
    (first : transducer.advance state units = some (written, next)) (rest : List Nat) :
    transducer.advance state (units ++ rest) =
      (transducer.advance next rest).map fun (later, last) => (written ++ later, last) := by
  induction units generalizing state written with
  | nil =>
    cases first
    simp
  | cons unit units ih =>
    simp only [advance, Option.bind_eq_bind, Option.bind_eq_some_iff, Option.pure_def,
      Option.some.injEq, Prod.mk.injEq, Prod.exists] at first
    obtain ⟨out, middle, stepped, later, last, further, rfl, rfl⟩ := first
    simp only [List.cons_append, advance, stepped, Option.bind_eq_bind, Option.bind_some,
      ih further]
    cases transducer.advance last rest <;> simp

/-- A state that is kept over each piece is kept over all of them. -/
theorem advance_flatMap {α : Type} {state : State} {list : List α} {units written : α → List Nat}
    (kept : ∀ a ∈ list, transducer.advance state (units a) = some (written a, state)) :
    transducer.advance state (list.flatMap units) = some (list.flatMap written, state) := by
  induction list with
  | nil => rfl
  | cons a rest ih =>
    obtain ⟨first, others⟩ := List.forall_mem_cons.mp kept
    rw [List.flatMap_cons, advance_append first, ih others]
    rfl

theorem advance_self {state : State} {units : List Nat}
    (kept : ∀ unit ∈ units, transducer.step state unit = some ([unit], state)) :
    transducer.advance state units = some (units, state) := by
  have single (unit : Nat) (member : unit ∈ units) :
      transducer.advance state [unit] = some ([unit], state) := by
    simp [advance, kept unit member]
  simpa using advance_flatMap single

end Transducer

def hexDigit? (unit : Nat) : Option Nat :=
  if '0'.toNat ≤ unit ∧ unit ≤ '9'.toNat then some (unit - '0'.toNat)
  else if 'A'.toNat ≤ unit ∧ unit ≤ 'F'.toNat then some (unit - 'A'.toNat + 10)
  else if 'a'.toNat ≤ unit ∧ unit ≤ 'f'.toNat then some (unit - 'a'.toNat + 10)
  else none

inductive EscapeState where
  | plain
  /-- Behind a backslash that may start an escape. -/
  | backslash
  /-- Behind one or more `u`. -/
  | marker
  | digits (missing value : Nat)
  deriving DecidableEq, Repr

/-- Replaces Unicode escapes. A backslash behind one that may start an escape may not, so the two
pass together. -/
def unicodeEscapes : Transducer EscapeState where
  start := .plain
  step
    | .plain, unit =>
      if unit = '\\'.toNat then some ([], .backslash) else some ([unit], .plain)
    | .backslash, unit =>
      if unit = 'u'.toNat then some ([], .marker) else some (['\\'.toNat, unit], .plain)
    | .marker, unit =>
      if unit = 'u'.toNat then some ([], .marker)
      else (hexDigit? unit).map fun digit => ([], .digits 3 digit)
    | .digits missing value, unit =>
      (hexDigit? unit).map fun digit =>
        if missing = 1 then ([16 * value + digit], .plain)
        else ([], .digits (missing - 1) (16 * value + digit))
  finish
    | .plain => some []
    | .backslash => some ['\\'.toNat]
    | _ => none

/-- The characters that stand behind a backslash for one that they name. -/
def namedEscapes : List (Nat × Nat) :=
  [('b', '\x08'), ('s', ' '), ('t', '\t'), ('n', '\n'), ('f', '\x0c'), ('r', '\r'), ('"', '"'),
    ('\x27', '\x27'), ('\\', '\\')].map fun (name, c) => (name.toNat, c.toNat)

def octalDigit? (unit : Nat) : Option Nat :=
  if '0'.toNat ≤ unit ∧ unit ≤ '7'.toNat then some (unit - '0'.toNat) else none

inductive LiteralState where
  | before
  | inside
  /-- Behind a backslash. -/
  | escaped
  /-- In an octal escape that may have so many more digits. -/
  | octal (more value : Nat)
  | behind
  deriving DecidableEq, Repr

/-- A unit between the quotes that no escape has begun before. -/
def stepInside (unit : Nat) : Option (List Nat × LiteralState) :=
  if unit = '"'.toNat then some ([], .behind)
  else if unit = '\\'.toNat then some ([], .escaped)
  else if unit = '\n'.toNat ∨ unit = '\r'.toNat then none
  else some ([unit], .inside)

/-- Reads one string literal and writes its value. Octal escapes have up to three digits and none
beyond 377. -/
def stringLiteral : Transducer LiteralState where
  start := .before
  step
    | .before, unit => if unit = '"'.toNat then some ([], .inside) else none
    | .inside, unit => stepInside unit
    | .escaped, unit =>
      match namedEscapes.lookup unit with
      | some value => some ([value], .inside)
      | none => (octalDigit? unit).map fun digit => ([], .octal (if digit ≤ 3 then 2 else 1) digit)
    | .octal more value, unit =>
      match more, octalDigit? unit with
      | more + 1, some digit => some ([], .octal more (8 * value + digit))
      | _, _ => (stepInside unit).map fun (written, next) => (value :: written, next)
    | .behind, _ => none
  finish
    | .behind => some []
    | _ => none

/-- The value of a text that is one string literal, in code units. -/
def stringValue? (text : String) : Option (List Nat) :=
  (unicodeEscapes.read (utf16 text)).bind stringLiteral.read

theorem escapeChar_of_plain {c : Char} (quote : c ≠ '"') (slash : c ≠ '\\') (feed : c ≠ '\n')
    (tab : c ≠ '\t') : escapeChar c = [c] := by
  rw [escapeChar] <;> assumption

/-- The four characters that are escaped, and all others. -/
theorem escapeChar_cases (c : Char) :
    (∃ name, escapeChar c = ['\\', name] ∧ name ≠ 'u' ∧ name.toNat < 128 ∧
        namedEscapes.lookup name.toNat = some c.toNat ∧ c.toNat < 128) ∨
      (escapeChar c = [c] ∧ c ≠ '"' ∧ c ≠ '\\' ∧ c ≠ '\n') := by
  by_cases quote : c = '"'
  · subst quote
    exact .inl ⟨'"', rfl, by decide, by decide, by decide, by decide⟩
  by_cases slash : c = '\\'
  · subst slash
    exact .inl ⟨'\\', rfl, by decide, by decide, by decide, by decide⟩
  by_cases feed : c = '\n'
  · subst feed
    exact .inl ⟨'n', rfl, by decide, by decide, by decide, by decide⟩
  by_cases tab : c = '\t'
  · subst tab
    exact .inl ⟨'t', rfl, by decide, by decide, by decide, by decide⟩
  · exact .inr ⟨escapeChar_of_plain quote slash feed tab, quote, slash, feed⟩

theorem codeUnits_of_ascii {c : Char} (ascii : c.toNat < 128) : codeUnits c = [c.toNat] := by
  rw [codeUnits, if_pos (by omega)]

/-- The code units that are written for a character. -/
def writtenUnits (c : Char) : List Nat :=
  (escapeChar c).flatMap codeUnits

theorem utf16_quoted (s : String) :
    utf16 (quoted s) = ['"'.toNat] ++ s.toList.flatMap writtenUnits ++ ['"'.toNat] := by
  have body : (escape s).toList.flatMap codeUnits = s.toList.flatMap writtenUnits := by
    rw [escape, String.toList_ofList, List.flatMap_assoc]
    rfl
  rw [utf16, quoted, String.toList_append, String.toList_append, List.flatMap_append,
    List.flatMap_append, body]
  rfl

/-- Nothing that is written for a character starts a Unicode escape. -/
theorem advance_unicodeEscapes (c : Char) :
    unicodeEscapes.advance .plain (writtenUnits c) = some (writtenUnits c, .plain) := by
  rw [writtenUnits]
  rcases escapeChar_cases c with ⟨name, escaped, unmarked, ascii, -⟩ | ⟨plain, -, unslashed, -⟩
  · have other : name.toNat ≠ 'u'.toNat := fun same => unmarked (Char.toNat_inj.mp same)
    have slash : unicodeEscapes.advance .plain (codeUnits '\\') = some ([], .backslash) := rfl
    have passed : unicodeEscapes.step .backslash name.toNat =
        some (['\\'.toNat, name.toNat], .plain) := if_neg other
    rw [escaped, List.flatMap_cons, List.flatMap_singleton, Transducer.advance_append slash,
      codeUnits_of_ascii ascii]
    simp only [Transducer.advance, passed]
    rfl
  · rw [plain, List.flatMap_singleton]
    refine Transducer.advance_self fun unit member => ?_
    have other : unit ≠ '\\'.toNat := by
      rintro rfl
      exact unslashed (eq_of_mem_codeUnits (by decide) member)
    exact if_neg other

/-- What is written for a character other than a carriage return stands for the character. -/
theorem advance_stringLiteral {c : Char} (other : c ≠ '\r') :
    stringLiteral.advance .inside (writtenUnits c) = some (codeUnits c, .inside) := by
  rw [writtenUnits]
  rcases escapeChar_cases c with
    ⟨name, escaped, -, ascii, named, small⟩ | ⟨plain, unquoted, unslashed, unfed⟩
  · have slash : stringLiteral.advance .inside (codeUnits '\\') = some ([], .escaped) := rfl
    rw [escaped, List.flatMap_cons, List.flatMap_singleton, Transducer.advance_append slash,
      codeUnits_of_ascii ascii, codeUnits_of_ascii small]
    simp [Transducer.advance, stringLiteral, named]
  · rw [plain, List.flatMap_singleton]
    refine Transducer.advance_self fun unit member => ?_
    have apart (special : Char) (ascii : special.toNat < 128) (differs : c ≠ special) :
        unit ≠ special.toNat := by
      rintro rfl
      exact differs (eq_of_mem_codeUnits ascii member)
    have unended : ¬ (unit = '\n'.toNat ∨ unit = '\r'.toNat) :=
      not_or_intro (apart '\n' (by decide) unfed) (apart '\r' (by decide) other)
    exact (if_neg (apart '"' (by decide) unquoted)).trans
      ((if_neg (apart '\\' (by decide) unslashed)).trans (if_neg unended))

theorem read_unicodeEscapes_quoted (s : String) :
    unicodeEscapes.read (utf16 (quoted s)) = some (utf16 (quoted s)) := by
  have opened : unicodeEscapes.advance .plain ['"'.toNat] = some (['"'.toNat], .plain) := rfl
  have body : unicodeEscapes.advance .plain (s.toList.flatMap writtenUnits) =
      some (s.toList.flatMap writtenUnits, .plain) :=
    Transducer.advance_flatMap fun c _ => advance_unicodeEscapes c
  have whole : unicodeEscapes.advance .plain (utf16 (quoted s)) =
      some (utf16 (quoted s), .plain) := by
    rw [utf16_quoted, List.append_assoc, Transducer.advance_append opened,
      Transducer.advance_append body, opened]
    rfl
  have start : unicodeEscapes.start = .plain := rfl
  rw [Transducer.read, start, whole]
  simp [unicodeEscapes]

/-- The text written for a string is one literal, which denotes the string, exactly if the string
holds no carriage return. -/
theorem stringValue?_quoted (s : String) :
    stringValue? (quoted s) = if '\r' ∈ s.toList then none else some (utf16 s) := by
  have opened : stringLiteral.advance .before ['"'.toNat] = some ([], .inside) := rfl
  have start : stringLiteral.start = .before := rfl
  rw [stringValue?, read_unicodeEscapes_quoted, Option.bind_some, Transducer.read, start,
    utf16_quoted, List.append_assoc, Transducer.advance_append opened]
  by_cases returns : '\r' ∈ s.toList
  · obtain ⟨before, after, split, fresh⟩ := List.eq_append_cons_of_mem returns
    have read : stringLiteral.advance .inside (before.flatMap writtenUnits) =
        some (before.flatMap codeUnits, .inside) :=
      Transducer.advance_flatMap fun c member =>
        advance_stringLiteral fun same => fresh (same ▸ member)
    have ended (rest : List Nat) : stringLiteral.advance .inside (writtenUnits '\r' ++ rest) = none :=
      rfl
    rw [if_pos returns, split, List.flatMap_append, List.flatMap_cons, List.append_assoc,
      List.append_assoc, Transducer.advance_append read, ended]
    rfl
  · have read : stringLiteral.advance .inside (s.toList.flatMap writtenUnits) =
        some (utf16 s, .inside) :=
      Transducer.advance_flatMap fun c member =>
        advance_stringLiteral fun same => returns (same ▸ member)
    have closed : stringLiteral.advance .inside ['"'.toNat] = some ([], .behind) := rfl
    rw [if_neg returns, Transducer.advance_append read, closed]
    simp [stringLiteral]

/-- What is written for a string denotes no other string. -/
theorem stringValue?_quoted_eq_some {s t : String} :
    stringValue? (quoted s) = some (utf16 t) ↔ t = s ∧ '\r' ∉ s.toList := by
  rw [stringValue?_quoted]
  by_cases returns : '\r' ∈ s.toList
  · simp [returns]
  · simp [returns, utf16_injective.eq_iff, eq_comm]

/-- A literal that is written for a string denotes that string and no other if the string holds no
carriage return, and is no literal otherwise. It is what the descriptor of a data type gives for the
SQL type behind the dialect and the class, and what a text expression appends to the line it stands in. -/
theorem string_literals_denote (s : String) :
    (∀ t, stringValue? (quoted s) = some (utf16 t) ↔ t = s ∧ '\r' ∉ s.toList) ∧
      ('\r' ∈ s.toList → stringValue? (quoted s) = none) ∧
      (∀ (library : QueryLibrary) (dialect className : String),
        library.dataTypeLiteral dialect className s =
          "new " ++ library.dataType ++ "(" ++ library.dialectReference dialect ++ ", "
            ++ className ++ ".class, " ++ quoted s ++ ")") ∧
      ∀ buffer : Source.Buffer,
        (buffer.writeAll (Expr.text s).layout).text = buffer.startLine.text ++ quoted s := by
  refine ⟨fun _ => stringValue?_quoted_eq_some, fun returns => ?_, fun _ _ _ => rfl,
    fun buffer => ?_⟩
  · rw [stringValue?_quoted, if_pos returns]
  · have filled : quoted s ≠ "" := by
      intro empty
      have units := utf16_quoted s
      rw [empty] at units
      simp [utf16] at units
    simp [Source.Buffer.writeAll, Expr.layout, Source.Buffer.write, filled, Source.Buffer.append]

/-- A carriage return is written as it is and ends the line inside the literal. -/
theorem carriageReturn_breaks_literal : stringValue? (quoted "varchar\r(10)") = none := by
  rw [stringValue?_quoted, if_pos (by decide)]

end EntityMapper.Java
