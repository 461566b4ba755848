import Typelib.Proofs.Text.Lines
import Typelib.Proofs.Text.Reading
import Typelib.Text.Quoted

/-!
# What literals stand for

A string literal ends at the first quote that no backslash escapes (`atBareQuote`), and stands for
what its escapes are resolved to (`unescape`): besides those that quoting writes there are codes of
two digits, codes with underscores, quotes of the other kind, and line breaks that are passed over.
A character that is quoted is written as itself or as an escape that resolves to it
(`quotedChar_cases`), and no bare quote comes from it.  So a quoted text is a literal of the text
(`isLiteralOf_quoted`), and a written integer is read back as well (`integer?_toString`).
-/

namespace Typelib.Text

variable {cs rest after value : List Char} {c : Char}

/-! ## Where a literal ends -/

/-- What stands before the first quote that is not escaped, and what stands after it. -/
def atBareQuote : List Char → Option (List Char × List Char)
  | [] => none
  | '\x22' :: rest => some ([], rest)
  | ['\\'] => none
  | '\\' :: c :: rest => (atBareQuote rest).map fun found => ('\\' :: c :: found.1, found.2)
  | c :: rest => (atBareQuote rest).map fun found => (c :: found.1, found.2)

/-! ## Escapes -/

/-- The character of a code in braces: one to six hexadecimal digits, with underscores anywhere but
in front. -/
def codePoint? (cs : List Char) : Option Char :=
  let digits := cs.filter (· ≠ '_')
  if cs.head? = some '_' ∨ 6 < digits.length then none
  else (natural? 16 digits).bind fun n => if n.isValidChar then some (Char.ofNat n) else none

/-- Blanks that are passed over after an escaped line break. -/
def isLayout (c : Char) : Bool := c = ' ' || c = '\t' || c = '\n' || c = '\r'

/-- What an escape stands for, and what follows it; the backslash is read already. -/
def escape? : List Char → Option (List Char × List Char)
  | '0' :: rest => some (['\x00'], rest)
  | 't' :: rest => some (['\t'], rest)
  | 'n' :: rest => some (['\n'], rest)
  | 'r' :: rest => some (['\r'], rest)
  | '\x22' :: rest => some (['\x22'], rest)
  | '\x27' :: rest => some (['\x27'], rest)
  | '\\' :: rest => some (['\\'], rest)
  | '\n' :: rest => some ([], rest.dropWhile isLayout)
  | 'x' :: high :: low :: rest =>
    (natural? 16 [high, low]).bind fun n => if n < 0x80 then some ([Char.ofNat n], rest) else none
  | 'u' :: '\x7b' :: rest =>
    match rest.dropWhile (· ≠ '\x7d') with
    | [] => none
    | _ :: after => (codePoint? (rest.takeWhile (· ≠ '\x7d'))).map fun c => ([c], after)
  | _ => none

theorem length_le_of_escape? (h : escape? cs = some (value, after)) :
    after.length ≤ cs.length := by
  unfold escape? at h
  split at h
  case h_8 rest =>
    cases h
    exact Nat.le_succ_of_le (List.length_dropWhile_le _ _)
  case h_9 high low rest =>
    obtain ⟨n, -, hn⟩ := Option.bind_eq_some_iff.mp h
    split at hn
    · cases hn
      simp only [List.length_cons]
      omega
    · cases hn
  case h_10 rest =>
    split at h
    · cases h
    · rename_i brace left hleft
      obtain ⟨c, -, hc⟩ := Option.map_eq_some_iff.mp h
      cases hc
      have hlength := List.length_dropWhile_le (· ≠ '\x7d') rest
      rw [hleft] at hlength
      simp only [List.length_cons] at hlength ⊢
      omega
  case h_11 => cases h
  all_goals
    cases h
    exact Nat.le_succ _

/-- What stands between the quotes of a literal, with its escapes resolved. -/
def unescape (cs : List Char) : Option (List Char) :=
  match cs with
  | [] => some []
  | '\\' :: rest =>
    match h : escape? rest with
    | none => none
    | some (value, after) =>
      have : after.length ≤ rest.length := length_le_of_escape? h
      (unescape after).map (value ++ ·)
  | c :: rest => if c = '\x22' ∨ c = '\r' then none else (unescape rest).map (c :: ·)
termination_by cs.length

/-- The text of a literal at the start, and what follows it. -/
def readLiteral : List Char → Option (List Char × List Char)
  | '\x22' :: cs =>
    (atBareQuote cs).bind fun (body, rest) => (unescape body).map fun value => (value, rest)
  | _ => none

theorem unescape_escape (h : escape? cs = some (value, after)) :
    unescape ('\\' :: cs) = (unescape after).map (value ++ ·) := by
  rw [unescape]
  split
  · rename_i hnone
    rw [hnone] at h
    cases h
  · rename_i found left hfound
    rw [hfound] at h
    cases h
    rfl

theorem unescape_plain (hslash : c ≠ '\\') (hquote : c ≠ '\x22') (hreturn : c ≠ '\r') :
    unescape (c :: cs) = (unescape cs).map (c :: ·) := by
  rw [unescape]
  · rw [if_neg (not_or.mpr ⟨hquote, hreturn⟩)]
  · exact fun heq => absurd heq hslash

theorem atBareQuote_plain (hplain : ∀ c ∈ cs, c ≠ '\\' ∧ c ≠ '\x22') (rest : List Char) :
    atBareQuote (cs ++ rest) = (atBareQuote rest).map fun found => (cs ++ found.1, found.2) := by
  induction cs with
  | nil => simp
  | cons c more ih =>
    obtain ⟨⟨hslash, hquote⟩, hmore⟩ := List.forall_mem_cons.mp hplain
    have hstep : atBareQuote (c :: (more ++ rest)) =
        (atBareQuote (more ++ rest)).map fun found => (c :: found.1, found.2) := by
      rw [atBareQuote]
      · exact hquote
      · exact fun heq _ => hslash heq
      · exact fun _ _ heq _ => hslash heq
    rw [List.cons_append, hstep, ih hmore, Option.map_map]
    rfl

/-! ## Quoted characters -/

/-- Letters that stand for a character after a backslash, and none of which but the first could be
taken for the start of an escape or the end of a literal. -/
structure IsEscapeOf (letters : List Char) (c : Char) : Prop where
  resolves : ∀ rest, escape? (letters ++ rest) = some ([c], rest)
  plain : ∃ first more, letters = first :: more ∧ ∀ d ∈ more, d ≠ '\\' ∧ d ≠ '\x22'

/-- No digit is a backslash, a quote, an underscore or a brace. -/
theorem digitChar_ne_mark : ∀ d < 16, Nat.digitChar d ≠ '\\' ∧ Nat.digitChar d ≠ '\x22' ∧
    Nat.digitChar d ≠ '_' ∧ Nat.digitChar d ≠ '\x7d' := by
  decide

theorem toDigits_ne_mark {n : Nat} (h : c ∈ Nat.toDigits 16 n) :
    c ≠ '\\' ∧ c ≠ '\x22' ∧ c ≠ '_' ∧ c ≠ '\x7d' := by
  obtain ⟨d, hd, rfl⟩ := mem_toDigits (by decide) h
  exact digitChar_ne_mark d hd

theorem toNat_isValidChar (c : Char) : c.toNat.isValidChar := c.valid

/-- The code of a character in digits is read as the character. -/
theorem codePoint?_toDigits (c : Char) : codePoint? (Nat.toDigits 16 c.toNat) = some c := by
  have hfilter : (Nat.toDigits 16 c.toNat).filter (· ≠ '_') = Nat.toDigits 16 c.toNat :=
    List.filter_eq_self.mpr fun d hd => decide_eq_true (toDigits_ne_mark hd).2.2.1
  have hhead : (Nat.toDigits 16 c.toNat).head? ≠ some '_' := fun hhead =>
    (toDigits_ne_mark (List.mem_of_mem_head? hhead)).2.2.1 rfl
  have hbound : c.toNat < 16 ^ 6 := by
    have hvalid := toNat_isValidChar c
    unfold Nat.isValidChar at hvalid
    omega
  have hlength : (Nat.toDigits 16 c.toNat).length ≤ 6 :=
    (Nat.length_toDigits_le_iff (by decide) (by decide)).mpr hbound
  rw [codePoint?, hfilter, if_neg (not_or.mpr ⟨hhead, Nat.not_lt.mpr hlength⟩),
    natural?_toDigits (by decide) (by decide), Option.bind_some,
    if_pos (toNat_isValidChar c), Char.ofNat_toNat]

theorem isEscapeOf_code (c : Char) :
    IsEscapeOf ('u' :: '\x7b' :: Nat.toDigits 16 c.toNat ++ ['\x7d']) c where
  resolves rest := by
    have hdigits : ∀ d ∈ Nat.toDigits 16 c.toNat, decide (d ≠ '\x7d') := fun d hd =>
      decide_eq_true (toDigits_ne_mark hd).2.2.2
    have htake : (Nat.toDigits 16 c.toNat ++ '\x7d' :: rest).takeWhile (· ≠ '\x7d') =
        Nat.toDigits 16 c.toNat := by
      rw [List.takeWhile_append_of_pos hdigits, List.takeWhile_cons_of_neg (by simp),
        List.append_nil]
    have hdrop : (Nat.toDigits 16 c.toNat ++ '\x7d' :: rest).dropWhile (· ≠ '\x7d') =
        '\x7d' :: rest := by
      rw [List.dropWhile_append_of_pos hdigits, List.dropWhile_cons_of_neg (by simp)]
    rw [List.cons_append, List.cons_append, List.cons_append, List.cons_append,
      List.append_assoc, List.singleton_append, escape?, hdrop, htake, codePoint?_toDigits]
    rfl
  plain := by
    refine ⟨'u', _, rfl, fun d hd => ?_⟩
    rcases List.mem_cons.mp hd with rfl | hd
    · decide
    · rcases List.mem_append.mp hd with hd | hd
      · exact ⟨(toDigits_ne_mark hd).1, (toDigits_ne_mark hd).2.1⟩
      · rw [List.mem_singleton.mp hd]
        decide

/-- A quoted character is an escape that resolves to it, or the character as it is, which then
neither starts an escape nor ends the literal or the line. -/
theorem quotedChar_cases (c : Char) :
    (∃ letters, quotedChar c = '\\' :: letters ∧ IsEscapeOf letters c) ∨
      quotedChar c = [c] ∧ c ≠ '\\' ∧ c ≠ '\x22' ∧ c ≠ '\r' := by
  have hletter (first : Char) (c : Char) (h : ∀ rest, escape? (first :: rest) = some ([c], rest)) :
      IsEscapeOf [first] c := ⟨h, first, [], rfl, List.forall_mem_nil _⟩
  unfold quotedChar
  split
  case h_7 hreturn hquote hslash =>
    split
    · exact .inl ⟨_, rfl, isEscapeOf_code c⟩
    · exact .inr ⟨rfl, hslash, hquote, hreturn⟩
  all_goals exact .inl ⟨_, rfl, hletter _ _ fun _ => rfl⟩

/-! ## Quoted texts -/

theorem unescape_quotedChar (c : Char) (rest : List Char) :
    unescape (quotedChar c ++ rest) = (unescape rest).map (c :: ·) := by
  rcases quotedChar_cases c with ⟨letters, hc, hescape⟩ | ⟨hc, hslash, hquote, hreturn⟩
  · rw [hc, List.cons_append, unescape_escape (hescape.resolves rest)]
    rfl
  · rw [hc, List.singleton_append, unescape_plain hslash hquote hreturn]

/-- Resolving the escapes of a text that was quoted gives the text. -/
theorem unescape_quotedBody (cs : List Char) : unescape (quotedBody cs) = some cs := by
  induction cs with
  | nil => rw [quotedBody, List.flatMap_nil, unescape]
  | cons c rest ih =>
    rw [quotedBody, List.flatMap_cons, unescape_quotedChar, ← quotedBody, ih, Option.map_some]

theorem atBareQuote_quotedChar (c : Char) (rest : List Char) :
    atBareQuote (quotedChar c ++ rest) =
      (atBareQuote rest).map fun found => (quotedChar c ++ found.1, found.2) := by
  rcases quotedChar_cases c with ⟨letters, hc, hescape⟩ | ⟨hc, hslash, hquote, -⟩
  · obtain ⟨first, more, rfl, hmore⟩ := hescape.plain
    rw [hc, List.cons_append, List.cons_append, atBareQuote, atBareQuote_plain hmore,
      Option.map_map]
    rfl
  · rw [hc]
    exact atBareQuote_plain (by simpa using ⟨hslash, hquote⟩) rest

/-- The first bare quote after a text that was quoted is the one that follows. -/
theorem atBareQuote_quotedBody (cs rest : List Char) :
    atBareQuote (quotedBody cs ++ '\x22' :: rest) = some (quotedBody cs, rest) := by
  induction cs with
  | nil => rfl
  | cons c more ih =>
    rw [quotedBody, List.flatMap_cons, List.append_assoc, atBareQuote_quotedChar, ← quotedBody, ih,
      Option.map_some]

/-- A literal stays on one line, has no bare quote between those at its ends, and is read as a text,
whatever follows it. -/
structure IsLiteralOf (literal s : String) : Prop where
  unbroken : ∀ c ∈ literal.toList, isBreak c = false
  enclosed : ∃ body, literal.toList = '\x22' :: body ++ ['\x22'] ∧
    ∀ rest, atBareQuote (body ++ '\x22' :: rest) = some (body, rest)
  reads : ∀ rest, readLiteral (literal.toList ++ rest) = some (s.toList, rest)

/-- A quoted text is a literal of the text. -/
theorem isLiteralOf_quoted (s : String) : IsLiteralOf (quoted s) s where
  unbroken _ hc := not_isBreak_of_mem_quoted hc
  enclosed := ⟨quotedBody s.toList, by simp [quoted], atBareQuote_quotedBody s.toList⟩
  reads rest := by
    have hsplit : (quoted s).toList ++ rest =
        '\x22' :: (quotedBody s.toList ++ '\x22' :: rest) := by simp [quoted]
    rw [hsplit, readLiteral, atBareQuote_quotedBody, Option.bind_some]
    dsimp only
    rw [unescape_quotedBody, Option.map_some]

/-! ## Integers -/

/-- The integer that decimal digits denote, with an optional minus sign. -/
def integer? : List Char → Option Int
  | '-' :: digits => (natural? 10 digits).map fun (n : Nat) => -(n : Int)
  | digits => (natural? 10 digits).map Int.ofNat

theorem integer?_toString (n : Int) : integer? (toString n).toList = some n := by
  cases n with
  | ofNat m =>
    have hnatural : toString (Int.ofNat m) = toString m := rfl
    have hhead : (Nat.toDigits 10 m).head? ≠ some '-' := fun hhead => by
      obtain ⟨d, hd, heq⟩ := mem_toDigits (by decide) (List.mem_of_mem_head? hhead)
      exact (by decide : ∀ d < 10, '-' ≠ Nat.digitChar d) d hd heq
    rw [hnatural, toList_toString]
    unfold integer?
    split
    · rename_i digits hdigits
      rw [hdigits] at hhead
      exact absurd rfl hhead
    · rw [natural?_toDigits (by decide) (by decide), Option.map_some]
  | negSucc m =>
    have hsign : toString (Int.negSucc m) = "-" ++ toString (m + 1) := rfl
    have hminus : "-".toList = ['-'] := by decide
    rw [hsign, String.toList_append, hminus, List.singleton_append, toList_toString, integer?,
      natural?_toDigits (by decide) (by decide), Option.map_some]
    rfl

end Typelib.Text
