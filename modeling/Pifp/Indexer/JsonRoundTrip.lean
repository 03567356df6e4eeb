import Pifp.Indexer.Json

/-!
# The printer and the parser of `serde_json` agree

`from_str` reads back what `to_string` printed, for every canonical value:
integers in the `u64` and negative `i64` ranges, no `f64`, objects whose keys
increase, nesting within the recursion limit. Each piece of the printer has its
own read-back lemma: a printed character through the escapes, a number through
its decimal digits (no leading zero, and nothing after them taken), a member
through its key and colon. The value, the items of an array and the entries of
an object are read back together, by recursion on the value, with the fuel its
size takes; the printed text is long enough that the fuel `from_str` gives is
always enough.
-/

namespace Pifp.Indexer

section Canonical

mutual
/-- The values the printer and the parser agree on, at a remaining nesting
depth: integers in range, no `f64`, objects with strictly increasing keys, and
no array or object where the depth runs out. -/
def Json.canonical : Nat → Json → Bool
  | _, .number (.posInt value) => decide (value ≤ u64Max)
  | _, .number (.negInt value) => decide (value < 0 ∧ -(2 ^ 63 : Int) ≤ value)
  | _, .number (.float _) => false
  | depth, .array items => decide (1 < depth) && Json.itemsCanonical (depth - 1) items
  | depth, .object entries =>
      decide (1 < depth) && decide ((entries.map Prod.fst).Chain' (· < ·)) &&
        Json.entriesCanonical (depth - 1) entries
  | _, _ => true

/-- Every item is canonical. -/
def Json.itemsCanonical : Nat → List Json → Bool
  | _, [] => true
  | depth, item :: items => item.canonical depth && Json.itemsCanonical depth items

/-- Every entry's value is canonical. -/
def Json.entriesCanonical : Nat → List (String × Json) → Bool
  | _, [] => true
  | depth, (_, value) :: entries => value.canonical depth && Json.entriesCanonical depth entries
end

mutual
/-- The fuel reading a value takes: one unit, and for an array or an object as
much again as its first element or the rest of it takes. -/
def Json.size : Json → Nat
  | .array [] => 1
  | .array (item :: items) => 1 + max item.size (Json.itemsSize items)
  | .object [] => 1
  | .object ((_, value) :: entries) => 1 + max value.size (Json.entriesSize entries)
  | _ => 1

/-- The fuel reading the items after the first takes. -/
def Json.itemsSize : List Json → Nat
  | [] => 1
  | item :: items => 1 + max item.size (Json.itemsSize items)

/-- The fuel reading the entries after the first takes. -/
def Json.entriesSize : List (String × Json) → Nat
  | [] => 1
  | (_, value) :: entries => 1 + max value.size (Json.entriesSize entries)
end

end Canonical

section RoundTrip

/-! The printer and the parser are inverse on canonical values. Strings are read
back one printed character at a time, numbers through their decimal digits, and
objects through the map they build, which is the entry list itself when the
keys already increase. -/

theorem hexValue_hexDigit : ∀ value, value < 16 → hexValue (hexDigit value) = some value := by
  decide

@[simp] theorem skipWhitespace_cons {c : Char} {rest : List Char} (solid : isWhitespace c = false) :
    skipWhitespace (c :: rest) = c :: rest := by
  simp [skipWhitespace, solid]

/-- Reading back one printed character. -/
theorem parseStringBody_escapeChar (c : Char) (tail : List Char) :
    parseStringBody (escapeChar c ++ tail) =
      (parseStringBody tail).map fun (chars, rest) => (c :: chars, rest) := by
  unfold escapeChar
  split_ifs with quote backslash backspace formFeed newline carriage tab control
  · subst quote; rfl
  · subst backslash; rfl
  · subst backspace; rfl
  · subst formFeed; rfl
  · subst newline; rfl
  · subst carriage; rfl
  · subst tab; rfl
  · have high : hexValue (hexDigit (c.toNat / 16)) = some (c.toNat / 16) :=
      hexValue_hexDigit _ (by omega)
    have low : hexValue (hexDigit (c.toNat % 16)) = some (c.toNat % 16) :=
      hexValue_hexDigit _ (by omega)
    have escape : hexEscape '0' '0' (hexDigit (c.toNat / 16)) (hexDigit (c.toNat % 16)) =
        some c.toNat := by
      simp only [hexEscape, high, low, show hexValue '0' = some 0 from rfl, Option.pure_def,
        Option.bind_eq_bind, Option.some_bind]
      congr 1
      omega
    have notTrailing : isTrailingSurrogate c.toNat = false := by
      simp [isTrailingSurrogate]; omega
    have notLeading : isLeadingSurrogate c.toNat = false := by
      simp [isLeadingSurrogate]; omega
    simp [parseStringBody, escape, notTrailing, notLeading, Char.ofNat_toNat]
  · simp [parseStringBody, quote, backslash, control]

/-- Reading back a whole printed string body. -/
theorem parseStringBody_escapeChars (chars rest : List Char) :
    parseStringBody (escapeChars chars ++ '"' :: rest) = some (chars, rest) := by
  induction chars with
  | nil => simp [escapeChars, parseStringBody]
  | cons c chars inductionHypothesis =>
    rw [escapeChars, List.append_assoc, parseStringBody_escapeChar, inductionHypothesis]
    rfl

theorem digitChar_digit : ∀ n, n < 10 →
    (Nat.digitChar n).isDigit = true ∧ (Nat.digitChar n).toNat - 48 = n := by
  decide

theorem digitsValue_append_singleton (digits : List Char) (c : Char) :
    digitsValue (digits ++ [c]) = 10 * digitsValue digits + (c.toNat - 48) := by
  simp [digitsValue, List.foldl_append]

/-- Decimal printing: `toDigitsCore` prepends a nonempty run of digits whose
value is the number, with no leading zero. -/
theorem toDigitsCore_digits (fuel n : Nat) (ds : List Char) (enough : n < fuel) :
    ∃ digits, Nat.toDigitsCore 10 fuel n ds = digits ++ ds ∧ digits ≠ [] ∧
      (∀ c ∈ digits, c.isDigit = true) ∧ digitsValue digits = n ∧
      (0 < n → digits.head? ≠ some '0') := by
  induction fuel generalizing n ds with
  | zero => omega
  | succ fuel inductionHypothesis =>
    have last := digitChar_digit (n % 10) (Nat.mod_lt _ (by omega))
    by_cases small : n / 10 = 0
    · refine ⟨[Nat.digitChar (n % 10)], by simp [Nat.toDigitsCore, small], by simp, by simp [last.1],
        ?_, ?_⟩
      · simpa [digitsValue, last.2] using (Nat.mod_eq_of_lt (by omega : n < 10) :)
      · intro positive
        have : n % 10 ≠ 0 := by omega
        simpa using fun same => this (by simpa [same] using last.2.symm)
    · obtain ⟨digits, core, nonempty, allDigits, value, leading⟩ :=
        inductionHypothesis (n / 10) (Nat.digitChar (n % 10) :: ds) (by omega)
      refine ⟨digits ++ [Nat.digitChar (n % 10)], by simp [Nat.toDigitsCore, small, core], by simp,
        ?_, ?_, ?_⟩
      · simpa [or_imp, forall_and, last.1] using allDigits
      · rw [digitsValue_append_singleton, value, last.2]
        omega
      · intro _
        obtain ⟨first, others, rfl⟩ := List.exists_cons_of_ne_nil nonempty
        simpa using leading (by omega)

/-- `to_string` of a number: a nonempty run of digits whose value is the number. -/
theorem toString_digits (n : Nat) :
    ∃ digits, (toString n).toList = digits ∧ digits ≠ [] ∧ (∀ c ∈ digits, c.isDigit = true) ∧
      digitsValue digits = n := by
  obtain ⟨digits, core, nonempty, allDigits, value, -⟩ := toDigitsCore_digits (n + 1) n [] (by omega)
  exact ⟨digits, by simpa [Nat.repr, Nat.toDigits] using core, nonempty, allDigits, value⟩

/-- What may follow a number: anything that cannot continue it. -/
def numberEnds : List Char → Bool
  | [] => true
  | c :: _ => !c.isDigit && c != '.' && c != 'e' && c != 'E'

theorem parseFraction_of_numberEnds {rest : List Char} (ends : numberEnds rest = true) :
    parseFraction rest = some ([], rest) := by
  match rest with
  | [] => rfl
  | c :: more =>
    simp only [numberEnds, Bool.and_eq_true, Bool.not_eq_true', bne_iff_ne, ne_eq] at ends
    obtain ⟨⟨⟨-, point⟩, e⟩, bigE⟩ := ends
    simp [parseFraction, parseExponent, point, e, bigE]

/-- The digit run of a printed number is exactly its digits. -/
theorem span_isDigit_append {digits rest : List Char} (allDigits : ∀ c ∈ digits, c.isDigit = true)
    (ends : numberEnds rest = true) :
    (digits ++ rest).takeWhile Char.isDigit = digits ∧
      (digits ++ rest).dropWhile Char.isDigit = rest := by
  rw [List.takeWhile_append_of_pos allDigits, List.dropWhile_append_of_pos allDigits]
  cases rest with
  | nil => simp
  | cons c more =>
    simp only [numberEnds, Bool.and_eq_true, Bool.not_eq_true'] at ends
    simp [List.takeWhile, List.dropWhile, ends.1.1.1]

/-- Decimal printing and reading: the digits of `n` read back as `n`, and
nothing after them is taken. -/
theorem parseNumber_repr (negative : Bool) (n : Nat) {rest : List Char}
    (ends : numberEnds rest = true) :
    parseNumber negative ((Nat.repr n).toList ++ rest) =
      some (numberOf negative (Nat.repr n).toList [], rest) ∧ digitsValue (Nat.repr n).toList = n := by
  obtain ⟨digits, core, nonempty, allDigits, value, leading⟩ :=
    toDigitsCore_digits (n + 1) n [] (by omega)
  have printed : (Nat.repr n).toList = digits := by
    simpa [Nat.repr, Nat.toDigits] using core
  refine ⟨?_, printed ▸ value⟩
  rcases Nat.eq_zero_or_pos n with rfl | positive
  · match rest with
    | [] => rfl
    | c :: more =>
      simp only [numberEnds, Bool.and_eq_true, Bool.not_eq_true'] at ends
      simp [show (Nat.repr 0).data = ['0'] from rfl, parseNumber, parseIntegerPart, ends.1.1.1,
        parseFraction_of_numberEnds (show numberEnds (c :: more) = true by simp [numberEnds, ends])]
  rw [printed]
  obtain ⟨first, others, rfl⟩ := List.exists_cons_of_ne_nil nonempty
  have notZero : first ≠ '0' := by simpa using leading positive
  have digit : first.isDigit = true := allDigits first (by simp)
  have run := span_isDigit_append (fun c member => allDigits c (.tail _ member)) ends
  simp [parseNumber, parseIntegerPart, notZero, digit, run.1, run.2,
    parseFraction_of_numberEnds ends]

/-- A key above every key present goes last. -/
theorem insertEntry_of_lt {key : String} {value : Json} :
    ∀ {entries : List (String × Json)}, (∀ entry ∈ entries, entry.1 < key) →
      insertEntry key value entries = entries ++ [(key, value)]
  | [], _ => rfl
  | (other, old) :: entries, below => by
    have smaller : other < key := below (other, old) (by simp)
    rw [insertEntry, if_neg (mt String.lt_iff_toList_lt.mpr (lt_asymm smaller)),
      if_neg (ne_of_gt smaller), insertEntry_of_lt fun entry member => below entry (.tail _ member)]
    rfl

/-- Entries already in increasing key order build themselves. -/
theorem buildMap_of_chain {entries : List (String × Json)}
    (increasing : (entries.map Prod.fst).Chain' (· < ·)) : buildMap entries = entries := by
  suffices reads : ∀ (members acc : List (String × Json)),
      ((acc ++ members).map Prod.fst).Chain' (· < ·) →
        members.foldl (fun entries member => insertEntry member.1 member.2 entries) acc =
          acc ++ members from
    reads entries [] increasing
  intro members
  induction members with
  | nil => simp
  | cons member members inductionHypothesis =>
    intro acc increasing
    have ordered := List.chain'_iff_pairwise.mp increasing
    have below : ∀ entry ∈ acc, entry.1 < member.1 := by
      intro entry member'
      simp only [List.map_append, List.map_cons, List.pairwise_append, List.pairwise_cons] at ordered
      exact ordered.2.2 _ (List.mem_map_of_mem _ member') _ (by simp)
    rw [List.foldl_cons, insertEntry_of_lt below, inductionHypothesis (acc ++ [member])
      (by rwa [List.append_assoc, List.singleton_append])]
    simp

/-- A printed `u64` reads back as one. -/
theorem parseNumber_posInt {n : Nat} (inRange : n ≤ u64Max) {rest : List Char}
    (ends : numberEnds rest = true) :
    parseNumber false ((Nat.repr n).toList ++ rest) = some (.posInt n, rest) := by
  obtain ⟨read, value⟩ := parseNumber_repr false n ends
  rw [read]
  simp only [numberOf, if_true, Bool.false_eq_true, if_false, value, if_pos inRange]

/-- The digits of a negative `i64` after its minus sign read back as it. -/
theorem parseNumber_negInt {n : Nat} (positive : 1 ≤ n) (inRange : n ≤ 2 ^ 63) {rest : List Char}
    (ends : numberEnds rest = true) :
    parseNumber true ((Nat.repr n).toList ++ rest) = some (.negInt (-(n : Int)), rest) := by
  obtain ⟨read, value⟩ := parseNumber_repr true n ends
  rw [read]
  simp only [numberOf, if_true, value, and_self, positive, inRange]

/-- A digit is none of the characters that start another token. -/
theorem digit_starts_number {c : Char} (digit : c.isDigit = true) :
    isWhitespace c = false ∧ c ≠ ']' ∧ c ≠ 'n' ∧ c ≠ 't' ∧ c ≠ 'f' ∧ c ≠ '"' ∧ c ≠ '-' ∧
      c ≠ '[' ∧ c ≠ '{' := by
  simp only [isWhitespace, Bool.or_eq_false_iff, beq_eq_false_iff_ne, ne_eq]
  refine ⟨⟨⟨⟨?_, ?_⟩, ?_⟩, ?_⟩, ?_, ?_, ?_, ?_, ?_, ?_, ?_, ?_⟩ <;> rintro rfl <;> simp at digit

/-- A number that starts with a digit is read by `parseNumber`. -/
theorem parseValue_digit {c : Char} {tail : List Char} (digit : c.isDigit = true) (fuel depth : Nat) :
    parseValue (fuel + 1) depth (c :: tail) =
      (parseNumber false (c :: tail)).map fun (number, rest) => (.number number, rest) := by
  obtain ⟨solid, -, n, t, f, quote, minus, bracket, brace⟩ := digit_starts_number digit
  simp only [parseValue, skipWhitespace_cons solid]
  split <;> simp_all

/-- Decimal printing always gives a digit first. -/
theorem repr_cons (n : Nat) : ∃ c tail, (Nat.repr n).toList = c :: tail ∧ c.isDigit = true := by
  obtain ⟨digits, printed, nonempty, allDigits, -⟩ := toString_digits n
  obtain ⟨c, tail, rfl⟩ := List.exists_cons_of_ne_nil nonempty
  exact ⟨c, tail, printed, allDigits c (List.mem_cons_self c tail)⟩

theorem Json.size_pos : ∀ value : Json, 0 < value.size
  | .array [] | .array (_ :: _) | .object [] | .object (_ :: _) | .null | .bool _ | .number _
  | .string _ => by simp only [Json.size]; omega

theorem Json.itemsSize_pos : ∀ items : List Json, 0 < Json.itemsSize items := by
  intro items
  cases items <;> simp only [Json.itemsSize] <;> omega

theorem Json.entriesSize_pos : ∀ entries : List (String × Json), 0 < Json.entriesSize entries := by
  intro entries
  cases entries <;> simp only [Json.entriesSize] <;> omega

theorem numberEnds_itemsToChars (items : List Json) (rest : List Char) :
    numberEnds (Json.itemsToChars items ++ rest) = true := by
  cases items <;> rfl

theorem numberEnds_entriesToChars (entries : List (String × Json)) (rest : List Char) :
    numberEnds (Json.entriesToChars entries ++ rest) = true := by
  cases entries <;> rfl

/-- A printed key and colon, then a value. -/
theorem parseMember_renderString (read : List Char → Option (Json × List Char)) (key : String)
    (valueChars : List Char) :
    parseMember read (renderString key ++ ':' :: valueChars) =
      (read valueChars).map fun (value, rest) => ((key, value), rest) := by
  simp only [renderString, List.cons_append, List.append_assoc, List.singleton_append]
  simp [parseMember, parseStringBody_escapeChars, skipWhitespace, isWhitespace]
  cases read valueChars <;> rfl

/-- A printed canonical value starts with a character that is neither
whitespace nor a closing bracket. -/
theorem Json.toChars_head {value : Json} {depth : Nat} (canonical : value.canonical depth = true) :
    ∃ c tail, value.toChars = c :: tail ∧ isWhitespace c = false ∧ c ≠ ']' := by
  match value with
  | .null | .bool true | .bool false | .string _ | .array [] | .array (_ :: _) | .object []
  | .object (_ :: _) => exact ⟨_, _, rfl, rfl, by decide⟩
  | .number (.posInt n) =>
    obtain ⟨c, tail, printed, digit⟩ := repr_cons n
    exact ⟨c, tail, printed, (digit_starts_number digit).1, (digit_starts_number digit).2.1⟩
  | .number (.negInt _) =>
    simp only [Json.canonical, decide_eq_true_eq] at canonical
    obtain ⟨m, rfl⟩ := Int.eq_negSucc_of_lt_zero canonical.1
    exact ⟨'-', _, rfl, rfl, by decide⟩
  | .number (.float _) => simp [Json.canonical] at canonical

mutual
/-- The parser reads a printed canonical value back, given the fuel its size
takes, leaving exactly what followed it. -/
theorem parseValue_toChars : ∀ (value : Json) (fuel depth : Nat) (rest : List Char),
    value.canonical depth = true → value.size ≤ fuel → numberEnds rest = true →
      parseValue fuel depth (value.toChars ++ rest) = some (value, rest)
  | value, 0, _, _, _, size, _ => absurd size (Nat.not_le_of_lt value.size_pos)
  | .null, fuel + 1, depth, rest, _, _, _ => by simp [Json.toChars, parseValue, skipWhitespace, isWhitespace]
  | .bool true, fuel + 1, depth, rest, _, _, _ => by
    simp [Json.toChars, parseValue, skipWhitespace, isWhitespace]
  | .bool false, fuel + 1, depth, rest, _, _, _ => by
    simp [Json.toChars, parseValue, skipWhitespace, isWhitespace]
  | .number (.posInt n), fuel + 1, depth, rest, canonical, _, ends => by
    obtain ⟨c, tail, printed, digit⟩ := repr_cons n
    simp only [Json.canonical, decide_eq_true_eq] at canonical
    simp only [Json.toChars, JsonNumber.toString]
    rw [printed, List.cons_append, parseValue_digit digit, ← List.cons_append, ← printed,
      parseNumber_posInt canonical ends]
    rfl
  | .number (.negInt n), fuel + 1, depth, rest, canonical, _, ends => by
    simp only [Json.canonical, decide_eq_true_eq] at canonical
    obtain ⟨m, rfl⟩ := Int.eq_negSucc_of_lt_zero canonical.1
    have inRange : m + 1 ≤ 2 ^ 63 := by have := canonical.2; rw [Int.negSucc_eq] at this; omega
    have printed : (JsonNumber.negInt (Int.negSucc m)).toString.toList =
        '-' :: (Nat.repr (m + 1)).toList := rfl
    have read := parseNumber_negInt (by omega) inRange ends
    rw [show -((m + 1 : Nat) : Int) = Int.negSucc m by rw [Int.negSucc_eq]; push_cast; rfl] at read
    simp only [Json.toChars, printed, List.cons_append]
    simp only [parseValue, skipWhitespace, isWhitespace]
    simpa using read
  | .number (.float _), fuel + 1, depth, rest, canonical, _, _ => by simp [Json.canonical] at canonical
  | .string value, fuel + 1, depth, rest, _, _, _ => by
    simp [Json.toChars, renderString, parseValue, skipWhitespace, isWhitespace,
      parseStringBody_escapeChars]
  | .array [], fuel + 1, depth, rest, canonical, _, _ => by
    simp [Json.canonical] at canonical
    simp [Json.toChars, parseValue, skipWhitespace, isWhitespace, Nat.not_le.mpr canonical.1]
  | .array (item :: items), fuel + 1, depth, rest, canonical, size, _ => by
    simp only [Json.canonical, Json.itemsCanonical, Bool.and_eq_true, decide_eq_true_eq] at canonical
    simp only [Json.size, max_le_iff] at size
    have first := parseValue_toChars item fuel (depth - 1) (Json.itemsToChars items ++ rest)
      canonical.2.1 (by omega) (numberEnds_itemsToChars items rest)
    have others := parseItems_itemsToChars items fuel fuel (depth - 1) rest canonical.2.2 (by omega)
      (by omega)
    obtain ⟨c, tail, head, solid, notClose⟩ := Json.toChars_head canonical.2.1
    rw [head, List.cons_append] at first
    simp only [Json.toChars, head, List.cons_append, List.append_assoc]
    have opened : skipWhitespace ('[' :: c :: (tail ++ (Json.itemsToChars items ++ rest))) =
        '[' :: c :: (tail ++ (Json.itemsToChars items ++ rest)) := rfl
    simp only [parseValue, opened, skipWhitespace_cons solid, Nat.not_le.mpr canonical.1, if_false]
    split
    · next closed => simp_all
    · simp [first, others]
  | .object [], fuel + 1, depth, rest, canonical, _, _ => by
    simp [Json.canonical] at canonical
    simp [Json.toChars, parseValue, skipWhitespace, isWhitespace, Nat.not_le.mpr canonical.1]
  | .object ((key, value) :: entries), fuel + 1, depth, rest, canonical, size, _ => by
    simp only [Json.canonical, Json.entriesCanonical, Bool.and_eq_true, decide_eq_true_eq]
      at canonical
    simp only [Json.size, max_le_iff] at size
    have first := parseValue_toChars value fuel (depth - 1) (Json.entriesToChars entries ++ rest)
      canonical.2.1 (by omega) (numberEnds_entriesToChars entries rest)
    have others := parseMembers_entriesToChars entries fuel fuel (depth - 1) rest canonical.2.2
      (by omega) (by omega)
    have member := parseMember_renderString (parseValue fuel (depth - 1)) key
      (value.toChars ++ (Json.entriesToChars entries ++ rest))
    rw [first] at member
    have opened : skipWhitespace ('{' :: (renderString key ++ ':' :: (value.toChars ++
        (Json.entriesToChars entries ++ rest)))) = '{' :: (renderString key ++ ':' ::
          (value.toChars ++ (Json.entriesToChars entries ++ rest))) := rfl
    have keyed : skipWhitespace (renderString key ++ ':' :: (value.toChars ++
        (Json.entriesToChars entries ++ rest))) = renderString key ++ ':' ::
          (value.toChars ++ (Json.entriesToChars entries ++ rest)) := rfl
    simp only [Json.toChars, List.cons_append, List.append_assoc]
    simp only [parseValue, opened, keyed, Nat.not_le.mpr canonical.1.1, if_false]
    split
    · next closed => simp [renderString] at closed
    · simp [member, others, buildMap_of_chain canonical.1.2]

/-- The items after the first, read back. -/
theorem parseItems_itemsToChars : ∀ (items : List Json) (fuel loopFuel depth : Nat) (rest : List Char),
    Json.itemsCanonical depth items = true → Json.itemsSize items ≤ fuel →
      Json.itemsSize items ≤ loopFuel →
        parseItems (parseValue fuel depth) loopFuel (Json.itemsToChars items ++ rest) = some (items, rest)
  | items, _, 0, _, _, _, _, size => absurd size (Nat.not_le_of_lt (Json.itemsSize_pos items))
  | [], fuel, loopFuel + 1, depth, rest, _, _, _ => by
    simp [Json.itemsToChars, parseItems, skipWhitespace, isWhitespace]
  | item :: items, fuel, loopFuel + 1, depth, rest, canonical, size, loopSize => by
    simp only [Json.itemsCanonical, Bool.and_eq_true] at canonical
    simp only [Json.itemsSize, max_le_iff] at size loopSize
    have first := parseValue_toChars item fuel depth (Json.itemsToChars items ++ rest) canonical.1
      (by omega) (numberEnds_itemsToChars items rest)
    have others := parseItems_itemsToChars items fuel loopFuel depth rest canonical.2 (by omega)
      (by omega)
    simp [Json.itemsToChars, parseItems, skipWhitespace, isWhitespace, first, others]

/-- The entries after the first, read back. -/
theorem parseMembers_entriesToChars : ∀ (entries : List (String × Json)) (fuel loopFuel depth : Nat)
    (rest : List Char), Json.entriesCanonical depth entries = true →
      Json.entriesSize entries ≤ fuel → Json.entriesSize entries ≤ loopFuel →
        parseMembers (parseValue fuel depth) loopFuel (Json.entriesToChars entries ++ rest) =
          some (entries, rest)
  | entries, _, 0, _, _, _, _, size => absurd size (Nat.not_le_of_lt (Json.entriesSize_pos entries))
  | [], fuel, loopFuel + 1, depth, rest, _, _, _ => by
    simp [Json.entriesToChars, parseMembers, skipWhitespace, isWhitespace]
  | (key, value) :: entries, fuel, loopFuel + 1, depth, rest, canonical, size, loopSize => by
    simp only [Json.entriesCanonical, Bool.and_eq_true] at canonical
    simp only [Json.entriesSize, max_le_iff] at size loopSize
    have first := parseValue_toChars value fuel depth (Json.entriesToChars entries ++ rest) canonical.1
      (by omega) (numberEnds_entriesToChars entries rest)
    have others := parseMembers_entriesToChars entries fuel loopFuel depth rest canonical.2 (by omega)
      (by omega)
    simp only [Json.entriesToChars, List.cons_append, List.append_assoc]
    simp [parseMembers, skipWhitespace, isWhitespace, parseMember_renderString, first, others]
end

mutual
/-- A canonical value's printed text is at least as long as the fuel reading
it takes. -/
theorem Json.size_le_length : ∀ (value : Json) (depth : Nat), value.canonical depth = true →
    value.size ≤ value.toChars.length
  | .null, _, _ | .bool true, _, _ | .bool false, _, _ => by simp [Json.size, Json.toChars]
  | .string _, _, _ => by simp [Json.size, Json.toChars, renderString]
  | .array [], _, _ | .object [], _, _ => by simp [Json.size, Json.toChars]
  | .number (.posInt n), _, _ => by
    obtain ⟨c, tail, printed, -⟩ := repr_cons n
    simp only [Json.size, Json.toChars, JsonNumber.toString, printed, List.length_cons]
    omega
  | .number (.negInt _), depth, canonical => by
    obtain ⟨c, tail, head, -, -⟩ := Json.toChars_head canonical
    simp [Json.size, head]
  | .number (.float _), _, canonical => by simp [Json.canonical] at canonical
  | .array (item :: items), depth, canonical => by
    simp only [Json.canonical, Json.itemsCanonical, Bool.and_eq_true] at canonical
    have first := Json.size_le_length item (depth - 1) canonical.2.1
    have others := Json.itemsSize_le_length items (depth - 1) canonical.2.2
    simp only [Json.size, Json.toChars, List.length_cons, List.length_append]
    omega
  | .object ((key, value) :: entries), depth, canonical => by
    simp only [Json.canonical, Json.entriesCanonical, Bool.and_eq_true] at canonical
    have first := Json.size_le_length value (depth - 1) canonical.2.1
    have others := Json.entriesSize_le_length entries (depth - 1) canonical.2.2
    simp only [Json.size, Json.toChars, List.length_cons, List.length_append]
    omega

theorem Json.itemsSize_le_length : ∀ (items : List Json) (depth : Nat),
    Json.itemsCanonical depth items = true → Json.itemsSize items ≤ (Json.itemsToChars items).length
  | [], _, _ => by simp [Json.itemsSize, Json.itemsToChars]
  | item :: items, depth, canonical => by
    simp only [Json.itemsCanonical, Bool.and_eq_true] at canonical
    have first := Json.size_le_length item depth canonical.1
    have others := Json.itemsSize_le_length items depth canonical.2
    simp only [Json.itemsSize, Json.itemsToChars, List.length_cons, List.length_append]
    omega

theorem Json.entriesSize_le_length : ∀ (entries : List (String × Json)) (depth : Nat),
    Json.entriesCanonical depth entries = true →
      Json.entriesSize entries ≤ (Json.entriesToChars entries).length
  | [], _, _ => by simp [Json.entriesSize, Json.entriesToChars]
  | (key, value) :: entries, depth, canonical => by
    simp only [Json.entriesCanonical, Bool.and_eq_true] at canonical
    have first := Json.size_le_length value depth canonical.1
    have others := Json.entriesSize_le_length entries depth canonical.2
    simp only [Json.entriesSize, Json.entriesToChars, List.length_cons, List.length_append]
    omega
end

/-- Round trip: `from_str` reads back what `to_string` printed, for every
canonical value. -/
theorem Json.fromStr_render {value : Json} (canonical : value.canonical 128 = true) :
    Json.fromStr value.render = some value := by
  have read := parseValue_toChars value (value.toChars.length + 1) 128 [] canonical
    (by have := value.size_le_length 128 canonical; omega) rfl
  rw [List.append_nil] at read
  simp [Json.fromStr, Json.render, String.length, read, skipWhitespace]

end RoundTrip

end Pifp.Indexer
