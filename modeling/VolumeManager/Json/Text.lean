import Mathlib.Data.List.GetD
import Mathlib.Logic.Equiv.List

/-!
# JSON text as `encoding/json` writes and reads it

The text layer under `json.Marshal` and `json.Unmarshal`, for the values a `types.Volume` is made
of.

* `Json.escape` is `appendString` with HTML escaping, as `json.Marshal` calls it: `"` and `\` get
  a backslash; backspace, form feed, newline, carriage return and tab get their one-letter escapes;
  other control characters and `<`, `>`, `&` become `\u00XX`; U+2028 and U+2029 become
  `\u2028` and `\u2029`. Every other character is written as it is.
* `Json.parse` is the scanner's `checkValid` together with the decoder's walk. It gives the tree of
  a document (`Json.Value`), or `none` for a syntax error. A string or number keeps its literal
  text, as the decoder hands it to a `json.Unmarshaler`.
* `Json.unquote` is `unquoteBytes`. It decodes the escapes of a string literal, and a `\u` escape
  of a UTF-16 surrogate that does not pair with the next escape becomes U+FFFD.
* `Json.render` is the compact text the encoder writes for a tree.
* `Json.unquote_escape`: unquoting undoes escaping.
* `Json.parse_render`: the parser reads back every tree of the kind the encoder writes
  (`Json.Written`: no numbers, and each literal the escaping of a string).
-/

namespace VolumeManager

namespace Json

/-- A JSON value as the scanner delimits it. A string or a number keeps its literal text; for a
string that is the text between the quotes, escapes not yet decoded. -/
inductive Value where
  | null
  | bool (b : Bool)
  | number (literal : List Char)
  | str (literal : List Char)
  | array (items : List Value)
  | object (members : List (List Char × Value))

/-! ## Writing strings -/

/-- `hex`, the digits of a `\u` escape. -/
def hexDigits : List Char := "0123456789abcdef".data

/-- The hex digit of a value below 16. -/
def hexDigit (n : Nat) : Char := hexDigits.getD n '0'

/-- `htmlSafeSet`, for an ASCII character: printable, and none of `"`, `\`, `<`, `>`, `&`. -/
def htmlSafe (c : Char) : Bool :=
  0x20 ≤ c.toNat && !(c = '"' || c = '\\' || c = '<' || c = '>' || c = '&')

/-- One character as `appendString` writes it. -/
def escapeChar (c : Char) : List Char :=
  if c.toNat < 0x80 then
    if htmlSafe c then [c]
    else if c = '\\' ∨ c = '"' then ['\\', c]
    else if c = '\x08' then ['\\', 'b']
    else if c = '\x0c' then ['\\', 'f']
    else if c = '\n' then ['\\', 'n']
    else if c = '\r' then ['\\', 'r']
    else if c = '\t' then ['\\', 't']
    else ['\\', 'u', '0', '0', hexDigit (c.toNat / 16), hexDigit (c.toNat % 16)]
  else if c.toNat = 0x2028 ∨ c.toNat = 0x2029 then ['\\', 'u', '2', '0', '2', hexDigit (c.toNat % 16)]
  else [c]

/-- The text of a string literal of `s`, between its quotes. -/
def escape (s : String) : List Char := s.data.flatMap escapeChar

/-! ## Reading strings -/

/-- The value of a hex digit. -/
def hexValue (c : Char) : Option Nat :=
  if c.isDigit then some (c.toNat - 48)
  else if 'a' ≤ c ∧ c ≤ 'f' then some (c.toNat - 87)
  else if 'A' ≤ c ∧ c ≤ 'F' then some (c.toNat - 55)
  else none

/-- `getu4`: the value of four hex digits. -/
def hex4 (a b c d : Char) : Option Nat := do
  pure ((((← hexValue a) * 16 + (← hexValue b)) * 16 + (← hexValue c)) * 16 + (← hexValue d))

/-- `utf16.IsSurrogate`. -/
def isSurrogate (r : Nat) : Bool := 0xD800 ≤ r && r < 0xE000

/-- Whether `utf16.DecodeRune` joins two code units into one character. -/
def isPair (r r' : Nat) : Bool := 0xD800 ≤ r && r < 0xDC00 && 0xDC00 ≤ r' && r' < 0xE000

/-- The character `utf16.DecodeRune` makes of a pair. -/
def joinPair (r r' : Nat) : Nat := (r - 0xD800) * 0x400 + (r' - 0xDC00) + 0x10000

/-- The escapes the scanner accepts after a backslash, `u` apart. -/
def escapeLetters : List Char := ['"', '\\', '/', 'b', 'f', 'n', 'r', 't']

/-- The character a one-letter escape stands for in `unquoteBytes`. -/
def unescape (e : Char) : Option Char :=
  if e = '"' ∨ e = '\\' ∨ e = '/' ∨ e = '\'' then some e
  else if e = 'b' then some '\x08'
  else if e = 'f' then some '\x0c'
  else if e = 'n' then some '\n'
  else if e = 'r' then some '\r'
  else if e = 't' then some '\t'
  else none

/-- The scanner inside a string literal: the literal's text and what follows its closing quote;
`none` for a control character, a malformed escape or a missing quote. -/
def scanString : List Char → Option (List Char × List Char)
  | [] => none
  | c :: rest =>
    if c = '"' then some ([], rest)
    else if c = '\\' then
      match rest with
      | e :: rest' =>
        if e ∈ escapeLetters then (scanString rest').map fun p => ('\\' :: e :: p.1, p.2)
        else if e = 'u' then
          match rest' with
          | a :: b :: c :: d :: rest'' =>
            if (hex4 a b c d).isSome then
              (scanString rest'').map fun p => ('\\' :: 'u' :: a :: b :: c :: d :: p.1, p.2)
            else none
          | _ => none
        else none
      | [] => none
    else if c.toNat < 0x20 then none
    else (scanString rest).map fun p => (c :: p.1, p.2)

/-- The character a surrogate `r` forms with the `\uXXXX` escape at the start of the text, when
`utf16.DecodeRune` joins the two. -/
def pairWith (r : Nat) : List Char → Option Nat
  | x :: y :: a :: b :: c :: d :: _ =>
    match hex4 a b c d with
    | some r' => if x = '\\' ∧ y = 'u' ∧ isPair r r' = true then some (joinPair r r') else none
    | none => none
  | _ => none

/-- `unquoteBytes`, reading one character or escape per unit of `fuel`. -/
def unquoteFuel : Nat → List Char → Option (List Char)
  | _, [] => some []
  | 0, _ :: _ => none
  | n + 1, c :: rest =>
    if c = '\\' then
      match rest with
      | [] => none
      | e :: rest₁ =>
        if e = 'u' then
          match rest₁ with
          | a :: b :: c :: d :: rest₂ =>
            match hex4 a b c d with
            | none => none
            | some r =>
              if isSurrogate r then
                match pairWith r rest₂ with
                | some j => (Char.ofNat j :: ·) <$> unquoteFuel n (rest₂.drop 6)
                | none => ('�' :: ·) <$> unquoteFuel n rest₂
              else (Char.ofNat r :: ·) <$> unquoteFuel n rest₂
          | _ => none
        else
          match unescape e with
          | some u => (u :: ·) <$> unquoteFuel n rest₁
          | none => none
    else if c = '"' ∨ c.toNat < 0x20 then none
    else (c :: ·) <$> unquoteFuel n rest

/-- `unquoteBytes`: the characters of a string literal's text; `none` where it gives up. -/
def unquote (cs : List Char) : Option (List Char) := unquoteFuel cs.length cs

/-! ## Reading values -/

/-- The whitespace between tokens. -/
def isSpace (c : Char) : Bool := c = ' ' || c = '\t' || c = '\n' || c = '\r'

/-- Skip whitespace. -/
def skipSpace (cs : List Char) : List Char := cs.dropWhile isSpace

/-- One digit or more. -/
def scanDigits (cs : List Char) : Option (List Char × List Char) :=
  if cs.takeWhile Char.isDigit = [] then none
  else some (cs.takeWhile Char.isDigit, cs.dropWhile Char.isDigit)

/-- The integer part of a number: `0`, or a digit from 1 to 9 and the digits after it. -/
def scanInteger : List Char → Option (List Char × List Char)
  | [] => none
  | c :: rest => if c = '0' then some (['0'], rest) else scanDigits (c :: rest)

/-- An optional fraction, a dot and digits. -/
def scanFraction : List Char → Option (List Char × List Char)
  | [] => some ([], [])
  | c :: rest => if c = '.' then (scanDigits rest).map fun p => ('.' :: p.1, p.2) else some ([], c :: rest)

/-- An optional exponent, `e` or `E`, a sign or none, and digits. -/
def scanExponent : List Char → Option (List Char × List Char)
  | [] => some ([], [])
  | e :: rest =>
    if e = 'e' ∨ e = 'E' then
      match rest with
      | s :: rest' =>
        if s = '+' ∨ s = '-' then (scanDigits rest').map fun p => (e :: s :: p.1, p.2)
        else (scanDigits rest).map fun p => (e :: p.1, p.2)
      | [] => none
    else some ([], e :: rest)

/-- A number literal. -/
def scanNumber (cs : List Char) : Option (List Char × List Char) := do
  let (sign, cs) := if cs.head? = some '-' then (['-'], cs.tail) else ([], cs)
  let (i, cs) ← scanInteger cs
  let (f, cs) ← scanFraction cs
  let (e, cs) ← scanExponent cs
  pure (sign ++ i ++ f ++ e, cs)

/-- The rest of the text after the characters `lit`, if it starts with them. -/
def expect (lit cs : List Char) : Option (List Char) :=
  if lit.isPrefixOf cs then some (cs.drop lit.length) else none

mutual
/-- A value after optional whitespace, and the text after it. Every call reads at least one
character, so the length of the text is enough `fuel`. -/
def parseValue : Nat → List Char → Option (Value × List Char)
  | 0, _ => none
  | n + 1, cs =>
    match skipSpace cs with
    | [] => none
    | c :: rest =>
      if c = '{' then
        match skipSpace rest with
        | d :: rest' =>
          if d = '}' then some (.object [], rest')
          else (parseMembers n rest).map fun p => (.object p.1, p.2)
        | [] => none
      else if c = '[' then
        match skipSpace rest with
        | d :: rest' =>
          if d = ']' then some (.array [], rest')
          else (parseItems n rest).map fun p => (.array p.1, p.2)
        | [] => none
      else if c = '"' then (scanString rest).map fun p => (.str p.1, p.2)
      else if c = 'n' then (expect ['u', 'l', 'l'] rest).map fun r => (.null, r)
      else if c = 't' then (expect ['r', 'u', 'e'] rest).map fun r => (.bool true, r)
      else if c = 'f' then (expect ['a', 'l', 's', 'e'] rest).map fun r => (.bool false, r)
      else (scanNumber (c :: rest)).map fun p => (.number p.1, p.2)

/-- The items of an array: a value, then `,` and more items or `]`. -/
def parseItems : Nat → List Char → Option (List Value × List Char)
  | 0, _ => none
  | n + 1, cs =>
    match parseValue n cs with
    | none => none
    | some (v, rest) =>
      match skipSpace rest with
      | d :: rest' =>
        if d = ',' then (parseItems n rest').map fun p => (v :: p.1, p.2)
        else if d = ']' then some ([v], rest')
        else none
      | [] => none

/-- The members of an object: a key, `:`, a value, then `,` and more members or `}`. -/
def parseMembers : Nat → List Char → Option (List (List Char × Value) × List Char)
  | 0, _ => none
  | n + 1, cs =>
    match skipSpace cs with
    | q :: rest =>
      if q = '"' then
        match scanString rest with
        | none => none
        | some (key, rest) =>
          match skipSpace rest with
          | e :: rest =>
            if e = ':' then
              match parseValue n rest with
              | none => none
              | some (v, rest) =>
                match skipSpace rest with
                | d :: rest' =>
                  if d = ',' then (parseMembers n rest').map fun p => ((key, v) :: p.1, p.2)
                  else if d = '}' then some ([(key, v)], rest')
                  else none
                | [] => none
            else none
          | [] => none
      else none
    | [] => none
end

/-- `checkValid` and the decoder's walk: one value, with nothing but whitespace around it. -/
def parse (cs : List Char) : Option Value :=
  match parseValue (cs.length + 1) cs with
  | some (v, rest) => if skipSpace rest = [] then some v else none
  | none => none

/-! ## Writing values -/

mutual
/-- The compact text the encoder writes for a value. -/
def render : Value → List Char
  | .null => ['n', 'u', 'l', 'l']
  | .bool b => if b then ['t', 'r', 'u', 'e'] else ['f', 'a', 'l', 's', 'e']
  | .number lit => lit
  | .str lit => '"' :: lit ++ ['"']
  | .array [] => ['[', ']']
  | .array (v :: vs) => '[' :: render v ++ renderItems vs
  | .object [] => ['{', '}']
  | .object ((k, v) :: ms) => '{' :: '"' :: k ++ '"' :: ':' :: render v ++ renderMembers ms

/-- The items after the first, each after a comma, and the closing bracket. -/
def renderItems : List Value → List Char
  | [] => [']']
  | v :: vs => ',' :: render v ++ renderItems vs

/-- The members after the first, each after a comma, and the closing brace. -/
def renderMembers : List (List Char × Value) → List Char
  | [] => ['}']
  | (k, v) :: ms => ',' :: '"' :: k ++ '"' :: ':' :: render v ++ renderMembers ms
end

mutual
/-- The trees the encoder writes for the Go values here: no numbers, and every literal of a string
or a key the escaping of a string. -/
def Written : Value → Prop
  | .null => True
  | .bool _ => True
  | .number _ => False
  | .str lit => ∃ s, lit = escape s
  | .array vs => WrittenItems vs
  | .object ms => WrittenMembers ms

/-- `Written`, for every item. -/
def WrittenItems : List Value → Prop
  | [] => True
  | v :: vs => Written v ∧ WrittenItems vs

/-- `Written`, for every member, its key a string's escaping. -/
def WrittenMembers : List (List Char × Value) → Prop
  | [] => True
  | (k, v) :: ms => (∃ s, k = escape s) ∧ Written v ∧ WrittenMembers ms
end

/-! ## Strings round trip -/

/-- Unquoting reads a plain character as itself. -/
theorem unquoteFuel_plain {c : Char} (n : Nat) (rest : List Char) (h : c ≠ '\\')
    (h' : ¬(c = '"' ∨ c.toNat < 0x20)) :
    unquoteFuel (n + 1) (c :: rest) = (c :: ·) <$> unquoteFuel n rest := by
  simp only [unquoteFuel, if_neg h, if_neg h']

/-- Unquoting reads a one-letter escape as the character it stands for. -/
theorem unquoteFuel_letter {e u : Char} (n : Nat) (rest : List Char) (h : e ≠ 'u')
    (hu : unescape e = some u) :
    unquoteFuel (n + 1) ('\\' :: e :: rest) = (u :: ·) <$> unquoteFuel n rest := by
  simp only [unquoteFuel, if_pos rfl, if_neg h, hu, if_true]

/-- Unquoting reads a four-digit escape of a code point that is no surrogate as that character. -/
theorem unquoteFuel_hex {a b c d : Char} (n : Nat) (rest : List Char) {r : Nat}
    (hr : hex4 a b c d = some r) (hs : isSurrogate r = false) :
    unquoteFuel (n + 1) ('\\' :: 'u' :: a :: b :: c :: d :: rest) =
      (Char.ofNat r :: ·) <$> unquoteFuel n rest := by
  simp only [unquoteFuel, if_pos rfl, hr, hs]
  rfl

/-- The three forms `escapeChar` writes: the character itself (not a quote, a backslash or a
control character), a one-letter escape, or a `\u` escape of a code point that is no surrogate. -/
def escapeOk (c : Char) : Bool :=
  match escapeChar c with
  | [x] => x == c && x != '"' && x != '\\' && 0x20 ≤ x.toNat
  | [x, e] => x == '\\' && e ∈ escapeLetters && unescape e == some c
  | [x, y, a, b, d, e] => x == '\\' && y == 'u' && hex4 a b d e == some c.toNat && !isSurrogate c.toNat
  | _ => false

/-- Every ASCII character is escaped in one of the three forms. -/
theorem escapeOk_ascii : ∀ n < 0x80, escapeOk (Char.ofNat n) = true := by decide

/-- Every character is escaped in one of the three forms. -/
theorem escapeOk_all (c : Char) : escapeOk c = true := by
  by_cases hc : c.toNat < 0x80
  · rw [← Char.ofNat_toNat c]
    exact escapeOk_ascii _ hc
  · by_cases hl : c.toNat = 0x2028 ∨ c.toNat = 0x2029
    · rcases hl with hl | hl <;>
      · rw [show c = Char.ofNat c.toNat from (Char.ofNat_toNat c).symm, hl]
        decide
    · have hq : c ≠ '"' := fun h => hc (by rw [h]; decide)
      have hb : c ≠ '\\' := fun h => hc (by rw [h]; decide)
      simp only [escapeOk, escapeChar, if_neg hc, if_neg hl]
      simp [hq, hb]
      omega

/-- The one-letter escapes do not include u. -/
theorem u_not_mem_escapeLetters : 'u' ∉ escapeLetters := by decide

/-- Unquoting reads each character's escaping back as the character. -/
theorem unquoteFuel_escapeChar (c : Char) (n : Nat) (rest : List Char) :
    unquoteFuel (n + 1) (escapeChar c ++ rest) = (c :: ·) <$> unquoteFuel n rest := by
  have h := escapeOk_all c
  unfold escapeOk at h
  split at h
  next x heq =>
    simp only [Bool.and_eq_true, beq_iff_eq, bne_iff_ne, ne_eq, decide_eq_true_eq] at h
    obtain ⟨⟨⟨rfl, hq⟩, hb⟩, hs⟩ := h
    rw [heq, List.singleton_append, unquoteFuel_plain n rest hb (not_or.2 ⟨hq, by omega⟩)]
  next x e heq =>
    simp only [Bool.and_eq_true, beq_iff_eq, decide_eq_true_eq] at h
    obtain ⟨⟨rfl, he⟩, hu⟩ := h
    have hne : e ≠ 'u' := fun h => u_not_mem_escapeLetters (h ▸ he)
    rw [heq, List.cons_append, List.singleton_append, unquoteFuel_letter n rest hne hu]
  next x y a b d e heq =>
    simp only [Bool.and_eq_true, beq_iff_eq, Bool.not_eq_true'] at h
    obtain ⟨⟨⟨rfl, rfl⟩, hx⟩, hs⟩ := h
    simp only [heq, List.cons_append, List.nil_append, unquoteFuel_hex n rest hx hs, Char.ofNat_toNat]
  next => exact absurd h Bool.false_ne_true

/-- The scanner of a string passes over a character's escaping. -/
theorem scanString_escapeChar (c : Char) (rest : List Char) :
    scanString (escapeChar c ++ rest) = (scanString rest).map fun p => (escapeChar c ++ p.1, p.2) := by
  have h := escapeOk_all c
  unfold escapeOk at h
  split at h
  next x heq =>
    simp only [Bool.and_eq_true, beq_iff_eq, bne_iff_ne, ne_eq, decide_eq_true_eq] at h
    obtain ⟨⟨⟨rfl, hq⟩, hb⟩, hs⟩ := h
    rw [heq, List.singleton_append, scanString.eq_def]
    simp only [if_neg hq, if_neg hb, if_neg (show ¬x.toNat < 0x20 by omega), List.singleton_append]
  next x e heq =>
    simp only [Bool.and_eq_true, beq_iff_eq, decide_eq_true_eq] at h
    obtain ⟨⟨rfl, he⟩, -⟩ := h
    rw [heq, scanString.eq_def]
    simp [he]
  next x y a b d e heq =>
    simp only [Bool.and_eq_true, beq_iff_eq, Bool.not_eq_true'] at h
    obtain ⟨⟨⟨rfl, rfl⟩, hx⟩, -⟩ := h
    rw [heq, scanString.eq_def]
    simp [hx, u_not_mem_escapeLetters]
  next => exact absurd h Bool.false_ne_true

/-- Every character's escaping has a character. -/
theorem escapeChar_ne_nil (c : Char) : escapeChar c ≠ [] := fun h => by
  have := escapeOk_all c
  rw [escapeOk, h] at this
  exact Bool.false_ne_true this

/-- Unquoting the escaping of characters, with fuel for each, gives them back. -/
theorem unquoteFuel_escape (cs : List Char) (n : Nat) (h : cs.length ≤ n) :
    unquoteFuel n (cs.flatMap escapeChar) = some cs := by
  induction cs generalizing n with
  | nil => rw [List.flatMap_nil, unquoteFuel]
  | cons c cs ih =>
    obtain ⟨m, rfl⟩ : ∃ m, n = m + 1 := ⟨n - 1, by simp at h; omega⟩
    rw [List.flatMap_cons, unquoteFuel_escapeChar, ih m (by simpa using h)]
    rfl

/-- Unquoting undoes escaping. -/
theorem unquote_escape (s : String) : unquote (escape s) = some s.data := by
  refine unquoteFuel_escape _ _ ?_
  rw [escape]
  induction s.data with
  | nil => simp
  | cons c cs ih =>
    have := List.length_pos.2 (escapeChar_ne_nil c)
    simp only [List.flatMap_cons, List.length_append, List.length_cons]
    omega

/-- The scanner reads an escaped string up to its closing quote. -/
theorem scanString_escape (s : String) (r : List Char) :
    scanString (escape s ++ '"' :: r) = some (escape s, r) := by
  rw [escape]
  induction s.data with
  | nil => rw [List.flatMap_nil, List.nil_append, scanString.eq_def]; simp
  | cons c cs ih => rw [List.flatMap_cons, List.append_assoc, scanString_escapeChar, ih]; rfl

/-- A string whose characters need no escape is written as it is. -/
theorem escape_of_plain {s : String} (h : ∀ c ∈ s.data, escapeChar c = [c]) : escape s = s.data := by
  rw [escape]
  generalize s.data = cs at h ⊢
  induction cs with
  | nil => rfl
  | cons c cs ih =>
    rw [List.flatMap_cons, h c (List.mem_cons_self _ _), ih fun d hd => h d (List.mem_cons_of_mem _ hd)]
    rfl

/-! ## Values round trip -/

/-- Skipping space stops at a character that is not space. -/
theorem skipSpace_cons {c : Char} (cs : List Char) (h : isSpace c = false) :
    skipSpace (c :: cs) = c :: cs := by
  simp [skipSpace, List.dropWhile, h]

/-- A written value starts with neither whitespace nor a closing bracket. -/
theorem render_cons {v : Value} (hv : Written v) :
    ∃ c t, render v = c :: t ∧ isSpace c = false ∧ c ≠ ']' := by
  cases v with
  | null => exact ⟨_, _, rfl, by decide, by decide⟩
  | bool b => cases b <;> exact ⟨_, _, rfl, by decide, by decide⟩
  | number => exact hv.elim
  | str => exact ⟨_, _, rfl, by decide, by decide⟩
  | array vs => cases vs <;> exact ⟨_, _, rfl, by decide, by decide⟩
  | object ms => cases ms <;> exact ⟨_, _, rfl, by decide, by decide⟩

/-- Every written value renders to some text. -/
theorem render_length_pos {v : Value} (hv : Written v) : 0 < (render v).length := by
  obtain ⟨c, t, h, -⟩ := render_cons hv
  simp [h]

/-- An array renders to some text, its brackets at least. -/
theorem renderItems_length_pos (vs : List Value) : 0 < (renderItems vs).length := by
  cases vs <;> simp [renderItems]

/-- An object renders to some text, its braces at least. -/
theorem renderMembers_length_pos (ms : List (List Char × Value)) :
    0 < (renderMembers ms).length := by
  cases ms <;> simp [renderMembers]

mutual
/-- The parser reads back a written value, whatever follows it, given as much fuel as the value
has characters. -/
theorem parseValue_render : ∀ (v : Value) (n : Nat) (r : List Char), Written v →
    (render v).length ≤ n → parseValue n (render v ++ r) = some (v, r)
  | .null, n + 1, r, _, _ => by simp [render, parseValue, skipSpace_cons, isSpace, expect, List.isPrefixOf]
  | .bool true, n + 1, r, _, _ => by simp [render, parseValue, skipSpace_cons, isSpace, expect, List.isPrefixOf]
  | .bool false, n + 1, r, _, _ => by
    simp [render, parseValue, skipSpace_cons, isSpace, expect, List.isPrefixOf]
  | .str lit, n + 1, r, ⟨s, hs⟩, _ => by
    subst hs
    simp [render, parseValue, skipSpace_cons, isSpace, scanString_escape]
  | .array [], n + 1, r, _, _ => by simp [render, parseValue, skipSpace_cons, isSpace]
  | .array (v :: vs), n + 1, r, ⟨hv, hvs⟩, hn => by
    obtain ⟨c, t, hct, hsp, hc⟩ := render_cons hv
    have hi := parseItems_render v vs n r hv hvs (by simpa [render] using hn)
    rw [hct] at hi
    simp only [List.cons_append, List.append_assoc] at hi
    simp only [render, List.cons_append, List.append_assoc, hct, parseValue,
      skipSpace_cons _ (by decide : isSpace '[' = false), skipSpace_cons _ hsp, if_pos rfl, if_neg hc]
    simp [hi]
  | .object [], n + 1, r, _, _ => by simp [render, parseValue, skipSpace_cons, isSpace]
  | .object ((k, v) :: ms), n + 1, r, ⟨hk, hv, hms⟩, hn => by
    have hm := parseMembers_render k v ms n r hk hv hms (by simpa [render] using hn)
    simp only [List.cons_append, List.append_assoc] at hm
    simp only [render, List.cons_append, List.append_assoc, parseValue,
      skipSpace_cons _ (by decide : isSpace '{' = false), skipSpace_cons _ (by decide : isSpace '"' = false)]
    simp [hm]
  | .number _, _, _, hv, _ => hv.elim
  | v, 0, _, hv, hn => absurd hn (by have := render_length_pos hv; omega)
termination_by v => sizeOf v
decreasing_by all_goals (simp_wf; omega)

/-- The parser reads back the items of a written array after its opening bracket. -/
theorem parseItems_render : ∀ (v : Value) (vs : List Value) (n : Nat) (r : List Char), Written v →
    WrittenItems vs → (render v ++ renderItems vs).length ≤ n →
    parseItems n (render v ++ renderItems vs ++ r) = some (v :: vs, r)
  | v, [], n + 1, r, hv, _, hn => by
    have hx := parseValue_render v n (renderItems [] ++ r) hv (by simp [renderItems] at hn; omega)
    rw [List.append_assoc, parseItems, hx]
    simp [renderItems, skipSpace_cons, isSpace]
  | v, w :: ws, n + 1, r, hv, ⟨hw, hws⟩, hn => by
    have := render_length_pos hv
    have := renderItems_length_pos ws
    simp only [renderItems, List.length_append, List.length_cons] at hn
    have hx := parseValue_render v n (renderItems (w :: ws) ++ r) hv (by omega)
    have hi := parseItems_render w ws n r hw hws (by rw [List.length_append]; omega)
    rw [List.append_assoc, parseItems, hx]
    simp only [renderItems, List.cons_append, List.append_assoc] at hi ⊢
    simp [skipSpace_cons, isSpace, hi]
  | v, _, 0, _, hv, _, hn => absurd hn (by have := render_length_pos hv; rw [List.length_append]; omega)
termination_by v vs => sizeOf v + sizeOf vs
decreasing_by all_goals simp_wf <;> omega

/-- The parser reads back the members of a written object after its opening brace. -/
theorem parseMembers_render : ∀ (k : List Char) (v : Value) (ms : List (List Char × Value))
    (n : Nat) (r : List Char), (∃ s, k = escape s) → Written v → WrittenMembers ms →
    ('"' :: k ++ '"' :: ':' :: render v ++ renderMembers ms).length ≤ n →
    parseMembers n ('"' :: k ++ '"' :: ':' :: render v ++ renderMembers ms ++ r) = some ((k, v) :: ms, r)
  | _, v, [], n + 1, r, ⟨s, rfl⟩, hv, _, hn => by
    have hx := parseValue_render v n (renderMembers [] ++ r) hv (by simp [renderMembers] at hn ⊢; omega)
    simp only [List.cons_append, List.append_assoc, parseMembers,
      skipSpace_cons _ (by decide : isSpace '"' = false), if_pos rfl, scanString_escape,
      skipSpace_cons _ (by decide : isSpace ':' = false), hx]
    simp [renderMembers, skipSpace_cons, isSpace]
  | _, v, (k', v') :: ms, n + 1, r, ⟨s, rfl⟩, hv, ⟨hk', hv', hms⟩, hn => by
    have := render_length_pos hv
    have := renderMembers_length_pos ms
    simp only [renderMembers, List.length_append, List.length_cons] at hn
    have hx := parseValue_render v n (renderMembers ((k', v') :: ms) ++ r) hv (by omega)
    have hm := parseMembers_render k' v' ms n r hk' hv' hms
      (by simp only [List.length_append, List.length_cons]; omega)
    simp only [List.cons_append, List.append_assoc, parseMembers,
      skipSpace_cons _ (by decide : isSpace '"' = false), if_pos rfl, scanString_escape,
      skipSpace_cons _ (by decide : isSpace ':' = false), hx]
    simp only [renderMembers, List.cons_append, List.append_assoc] at hm ⊢
    simp [skipSpace_cons, isSpace, hm]
  | _, _, _, 0, _, _, _, _, hn => by simp at hn
termination_by _ v ms => sizeOf v + sizeOf ms
decreasing_by all_goals simp_wf <;> omega
end

/-- The parser reads back every written value. -/
theorem parse_render {v : Value} (hv : Written v) : parse (render v) = some v := by
  have := parseValue_render v ((render v).length + 1) [] hv (by omega)
  rw [List.append_nil] at this
  simp [parse, this, skipSpace]

end Json

end VolumeManager