import Mathlib.Data.List.Infix

/-!
# Header values and the text of negotiation

What `extensions/deflate.rs` does with text, on strings as lists of
characters: `str::split`, `str::trim`, `str::starts_with`, `str::contains`,
`u8::from_str` (`parseU8`, with the texts of `ParseIntError`), and the
`http` crate's `HeaderValue` (`to_str`, `from_str`) and `HeaderMap`
(`get_all`, `append`, `insert`, `remove`).

A `HeaderValue` carries the check `from_str` makes, so a value with a control
character cannot be built; `toStr_ok_valid` is what `to_str` adds to it.
-/

namespace Tungstenite

/-- A Rust `str`, as its characters. -/
abbrev Str := List Char

namespace Str

/-- `char::is_whitespace`: the characters of Unicode's White_Space property. -/
def isWhitespace (c : Char) : Bool :=
  let n := c.toNat
  (9 ≤ n && n ≤ 13) || n == 32 || n == 0x85 || n == 0xA0 || n == 0x1680 ||
    (0x2000 ≤ n && n ≤ 0x200A) || n == 0x2028 || n == 0x2029 || n == 0x202F || n == 0x205F ||
    n == 0x3000

/-- `str::trim`: the string without its leading and trailing white space. -/
def trim (s : Str) : Str := ((s.dropWhile isWhitespace).reverse.dropWhile isWhitespace).reverse

/-- `str::split` at a character: every piece, empty ones included. -/
def split (s : Str) (sep : Char) : List Str := s.splitOn sep

/-- `str::starts_with`. -/
def startsWith (s p : Str) : Bool := p.isPrefixOf s

/-- `str::contains` of a string: `p` occurs in `s`. -/
def contains (s p : Str) : Bool := s.tails.any p.isPrefixOf

theorem mem_of_mem_trim {s : Str} {c : Char} (h : c ∈ trim s) : c ∈ s := by
  simp only [trim, List.mem_reverse] at h
  exact (List.dropWhile_suffix _).subset (List.mem_reverse.mp ((List.dropWhile_suffix _).subset h))

theorem all_trim {P : Char → Bool} {s : Str} (h : s.all P = true) : (trim s).all P = true :=
  List.all_eq_true.2 fun c hc => List.all_eq_true.1 h c (mem_of_mem_trim hc)

/-- Every piece `split` gives is made of the string's characters. -/
theorem all_of_mem_split {P : Char → Bool} {sep : Char} :
    ∀ {s t : Str}, s.all P = true → t ∈ split s sep → t.all P = true
  | [], t, _, ht => by simp_all [split]
  | a :: s, t, hs, ht => by
    simp only [List.all_cons, Bool.and_eq_true] at hs
    simp only [split, List.splitOn, List.splitOnP_cons] at ht
    split at ht
    · rcases List.mem_cons.mp ht with rfl | ht
      · rfl
      · exact all_of_mem_split hs.2 ht
    · cases hL : List.splitOnP (· == sep) s with
      | nil => exact absurd hL (List.splitOnP_ne_nil _ _)
      | cons u rest =>
        rw [hL] at ht
        simp only [List.modifyHead, List.mem_cons] at ht
        rcases ht with rfl | ht
        · simpa [hs.1] using all_of_mem_split hs.2 (by simp [split, List.splitOn, hL] : u ∈ split s sep)
        · exact all_of_mem_split hs.2 (by simp [split, List.splitOn, hL, ht] : t ∈ split s sep)

/-- The decimal digits `Nat.toDigits` writes all have a property every digit
has. -/
theorem all_toDigitsCore {P : Char → Bool} (hP : ∀ m, m < 10 → P (Nat.digitChar m) = true) :
    ∀ (f n : Nat) {l : Str}, l.all P = true → (Nat.toDigitsCore 10 f n l).all P = true
  | 0, _, _, hl => hl
  | f + 1, n, l, hl => by
    have hd : (Nat.digitChar (n % 10) :: l).all P = true := by
      simpa [hP _ (Nat.mod_lt n (by decide))] using hl
    change (if n / 10 = 0 then Nat.digitChar (n % 10) :: l
      else Nat.toDigitsCore 10 f (n / 10) (Nat.digitChar (n % 10) :: l)).all P = true
    split
    · exact hd
    · exact all_toDigitsCore hP f _ hd

theorem contains_iff (s p : Str) : contains s p = true ↔ p <:+: s := by
  simp only [contains, List.any_eq_true, List.isPrefixOf_iff_prefix, List.mem_tails]
  constructor
  · rintro ⟨t, ⟨u, rfl⟩, ⟨v, rfl⟩⟩
    exact ⟨u, v, by rw [List.append_assoc]⟩
  · rintro ⟨u, v, rfl⟩
    exact ⟨p ++ v, ⟨u, by rw [List.append_assoc]⟩, List.prefix_append p v⟩

theorem dropWhile_of_forall {p : Char → Bool} : ∀ {s : Str}, (∀ c ∈ s, p c = false) → s.dropWhile p = s
  | [], _ => rfl
  | c :: s, h => by simp [List.dropWhile, h c (.head _)]

/-- A string with no white space is its own trim. -/
theorem trim_of_forall {s : Str} (h : ∀ c ∈ s, isWhitespace c = false) : trim s = s := by
  have hr : ∀ c ∈ s.reverse, isWhitespace c = false := fun c hc => h c (List.mem_reverse.mp hc)
  simp only [trim, dropWhile_of_forall h, dropWhile_of_forall hr, List.reverse_reverse]

/-- So is it after a blank: the blank after each `;` of a header value. -/
theorem trim_cons_space {s : Str} (h : ∀ c ∈ s, isWhitespace c = false) : trim (' ' :: s) = s := by
  have hr : ∀ c ∈ s.reverse, isWhitespace c = false := fun c hc => h c (List.mem_reverse.mp hc)
  simp only [trim, List.dropWhile_cons, show isWhitespace ' ' = true from rfl, if_true,
    dropWhile_of_forall h, dropWhile_of_forall hr, List.reverse_reverse]

/-- `split` at the first separator. -/
theorem split_append_cons {a : Str} {sep : Char} (h : sep ∉ a) (b : Str) :
    split (a ++ sep :: b) sep = a :: split b sep :=
  List.splitOnP_first (· == sep) a (fun _ hx hs => h (beq_iff_eq.mp hs ▸ hx)) sep (beq_self_eq_true sep) b

theorem split_of_not_mem {s : Str} {sep : Char} (h : sep ∉ s) : split s sep = [s] :=
  List.splitOnP_eq_single (· == sep) s fun _ hx hs => h (beq_iff_eq.mp hs ▸ hx)

theorem infix_of_infix_append {p b : Str} (hp : p ≠ []) :
    ∀ {d : Str}, (∀ c ∈ p, c ∉ d) → p <:+: d ++ b → p <:+: b
  | [], _, h => h
  | x :: d, hd, h => by
    rcases List.infix_cons_iff.mp h with h | h
    · obtain ⟨c, p', rfl⟩ := List.exists_cons_of_ne_nil hp
      rw [List.cons_prefix_cons] at h
      exact absurd (h.1 ▸ .head _) (hd c (.head _))
    · exact infix_of_infix_append hp (fun c hc hcd => hd c hc (.tail _ hcd)) h

/-- A pattern none of whose characters is in `d` occurs in `a ++ d ++ b` only
inside `a` or inside `b`. -/
theorem infix_append_append_iff {p d b : Str} (hp : p ≠ []) (hd : d ≠ []) (h : ∀ c ∈ p, c ∉ d) :
    ∀ {a : Str}, p <:+: a ++ (d ++ b) ↔ p <:+: a ∨ p <:+: b
  | [] => ⟨fun h' => .inr (infix_of_infix_append hp h h'), fun h' => h'.elim
      (fun h'' => absurd (List.eq_nil_of_infix_nil h'') hp) fun h'' => h''.trans ⟨d, [], by simp⟩⟩
  | x :: a => by
    refine ⟨fun h' => ?_, fun h' => h'.elim (fun h'' => h''.trans (List.prefix_append _ _).isInfix)
      fun h'' => h''.trans ⟨x :: a ++ d, [], by simp⟩⟩
    rcases List.infix_cons_iff.mp h' with hpre | hin
    · rcases List.prefix_or_prefix_of_prefix hpre (List.prefix_append (x :: a) (d ++ b)) with hpa | ⟨q, rfl⟩
      · exact .inl hpa.isInfix
      · replace hpre : q <+: d ++ b := (List.prefix_append_right_inj (x :: a)).mp hpre
        obtain ⟨y, d', rfl⟩ := List.exists_cons_of_ne_nil hd
        cases q with
        | nil => exact .inl (by simp)
        | cons c q =>
          rw [List.cons_append, List.cons_prefix_cons] at hpre
          exact absurd (hpre.1 ▸ .head _) (h c (by simp))
    · rcases (infix_append_append_iff hp hd h).mp hin with h'' | h''
      · exact .inl (h''.trans (List.suffix_cons x a).isInfix)
      · exact .inr h''

/-- The text of `ParseIntError` for an empty string. -/
def emptyText : String := "cannot parse integer from empty string"

/-- The text of `ParseIntError` for a character that is not a digit. -/
def invalidDigitText : String := "invalid digit found in string"

/-- The text of `ParseIntError` for a value past the type's maximum. -/
def posOverflowText : String := "number too large to fit in target type"

/-- The digits of `u8::from_str` after its sign, most significant first,
accumulated into `acc`: an error at the first character that is not a decimal
digit, or at the first digit that takes the value past 255. -/
def parseDigits (acc : Nat) : Str → Except String UInt8
  | [] => .ok acc.toUInt8
  | c :: cs =>
    if c.isDigit then
      if acc * 10 + (c.toNat - '0'.toNat) < 256 then parseDigits (acc * 10 + (c.toNat - '0'.toNat)) cs
      else .error posOverflowText
    else .error invalidDigitText

/-- `u8::from_str`, that is `from_str_radix` in base 10: an optional `+`, then
decimal digits. -/
def parseU8 : Str → Except String UInt8
  | [] => .error emptyText
  | ['+'] => .error invalidDigitText
  | ['-'] => .error invalidDigitText
  | '+' :: ds => parseDigits 0 ds
  | ds => parseDigits 0 ds

example : parseU8 "012".toList = .ok 12 := rfl
example : parseU8 "256".toList = .error posOverflowText := rfl

/-- Each decimal digit's character is a digit and reads back as the digit. -/
theorem digitChar_digit : ∀ m, m < 10 →
    (Nat.digitChar m).isDigit = true ∧ (Nat.digitChar m).toNat - '0'.toNat = m := by
  decide

/-- Reading the digits `Nat.toDigits` writes, given the fuel it is given, adds
the number to the value read. -/
theorem parseDigits_toDigitsCore : ∀ (f n : Nat) (l : Str), n < f → n < 256 →
    parseDigits 0 (Nat.toDigitsCore 10 f n l) = parseDigits n l
  | 0, _, _, h, _ => absurd h (Nat.not_lt_zero _)
  | f + 1, n, l, hf, hn => by
    obtain ⟨hdig, hval⟩ := digitChar_digit (n % 10) (Nat.mod_lt _ (by decide))
    change parseDigits 0 (if n / 10 = 0 then Nat.digitChar (n % 10) :: l
      else Nat.toDigitsCore 10 f (n / 10) (Nat.digitChar (n % 10) :: l)) = _
    split
    · simp only [parseDigits, hdig, hval, if_true, Nat.zero_mul, Nat.zero_add]
      rw [if_pos (by omega), Nat.mod_eq_of_lt (by omega)]
    · rw [parseDigits_toDigitsCore f (n / 10) _ (by omega) (by omega)]
      simp only [parseDigits, hdig, hval, if_true]
      rw [if_pos (by omega), show n / 10 * 10 + n % 10 = n by omega]

theorem toDigitsCore_ne_nil : ∀ (f n : Nat) {l : Str}, l ≠ [] → Nat.toDigitsCore 10 f n l ≠ []
  | 0, _, _, h => h
  | f + 1, n, l, _ => by
    change (if n / 10 = 0 then Nat.digitChar (n % 10) :: l
      else Nat.toDigitsCore 10 f (n / 10) (Nat.digitChar (n % 10) :: l)) ≠ []
    split
    · exact List.cons_ne_nil _ _
    · exact toDigitsCore_ne_nil f _ (List.cons_ne_nil _ _)

theorem toDigitsCore_succ_ne_nil (f n : Nat) (l : Str) : Nat.toDigitsCore 10 (f + 1) n l ≠ [] := by
  change (if n / 10 = 0 then Nat.digitChar (n % 10) :: l
    else Nat.toDigitsCore 10 f (n / 10) (Nat.digitChar (n % 10) :: l)) ≠ []
  split
  · exact List.cons_ne_nil _ _
  · exact toDigitsCore_ne_nil f _ (List.cons_ne_nil _ _)

/-- Digits with no sign are read as they are. -/
theorem parseU8_cons {c : Char} (hc : c.isDigit = true) (cs : Str) :
    parseU8 (c :: cs) = parseDigits 0 (c :: cs) := by
  have h1 : c ≠ '+' := by rintro rfl; exact absurd hc (by decide)
  have h2 : c ≠ '-' := by rintro rfl; exact absurd hc (by decide)
  cases cs <;> simp [parseU8, h1, h2]

/-- `u8::from_str` reads back what `format!` writes for every `u8`. -/
theorem parseU8_toDigits (b : UInt8) : parseU8 (Nat.toDigits 10 b.toNat) = .ok b := by
  have hall : (Nat.toDigitsCore 10 (b.toNat + 1) b.toNat []).all Char.isDigit = true :=
    all_toDigitsCore (fun m hm => (digitChar_digit m hm).1) _ _ rfl
  obtain ⟨c, cs, hcs⟩ := List.exists_cons_of_ne_nil (toDigitsCore_succ_ne_nil b.toNat b.toNat [])
  have hc : c.isDigit = true := by
    simp only [hcs, List.all_cons, Bool.and_eq_true] at hall
    exact hall.1
  change parseU8 (Nat.toDigitsCore 10 (b.toNat + 1) b.toNat []) = _
  rw [hcs, parseU8_cons hc, ← hcs, parseDigits_toDigitsCore _ _ _ (Nat.lt_succ_self _) b.toNat_lt_size]
  exact congrArg Except.ok (UInt8.toNat.inj (UInt8.toNat_ofNat_of_lt b.toNat_lt_size))

end Str

/-- A character `HeaderValue::from_str` accepts: a tab, or anything from a
blank up but DEL (a character past ASCII is bytes from 0x80 up in UTF-8). -/
def isValueChar (c : Char) : Bool := c == '\t' || (32 ≤ c.toNat && c.toNat != 127)

/-- A character `HeaderValue::to_str` accepts: a tab or visible ASCII. -/
def isVisibleAscii (c : Char) : Bool := c == '\t' || (32 ≤ c.toNat && c.toNat < 127)

/-- `http::HeaderValue`: text with no control character but a tab. -/
structure HeaderValue where
  chars : Str
  valid : chars.all isValueChar = true
  deriving DecidableEq

namespace HeaderValue

/-- The text of `ToStrError`. -/
def toStrErrorText : String := "failed to convert header to a str"

/-- The text of `InvalidHeaderValue`. -/
def invalidHeaderValueText : String := "failed to parse header value"

/-- `HeaderValue::to_str`: the text, when it is visible ASCII. -/
def toStr (v : HeaderValue) : Except String Str :=
  if v.chars.all isVisibleAscii then .ok v.chars else .error toStrErrorText

/-- `HeaderValue::from_str`. -/
def fromStr (s : Str) : Except String HeaderValue :=
  if h : s.all isValueChar = true then .ok ⟨s, h⟩ else .error invalidHeaderValueText

theorem isValueChar_of_isVisibleAscii {c : Char} (h : isVisibleAscii c = true) :
    isValueChar c = true := by
  simp only [isVisibleAscii, isValueChar, Bool.or_eq_true, Bool.and_eq_true, decide_eq_true_eq,
    bne_iff_ne, ne_eq, beq_iff_eq] at *
  exact h.imp_right fun h => ⟨h.1, by omega⟩

/-- What `to_str` returns is visible ASCII. -/
theorem toStr_ok_valid {v : HeaderValue} {s : Str} (h : v.toStr = .ok s) :
    s.all isVisibleAscii = true := by
  unfold toStr at h
  split at h
  · cases h; assumption
  · cases h

theorem fromStr_of_valid {s : Str} (h : s.all isValueChar = true) : fromStr s = .ok ⟨s, h⟩ := by
  simp [fromStr, h]

end HeaderValue

/-- `http::HeaderMap`: its entries in order, each a name (in lower case, as
`HeaderName` keeps it) and a value. Only the order of one name's values is
observable through the functions below. -/
structure HeaderMap where
  entries : List (Str × HeaderValue)
  deriving DecidableEq

namespace HeaderMap

/-- `get_all`: the values of a name, in order. -/
def getAll (m : HeaderMap) (name : Str) : List HeaderValue :=
  (m.entries.filter (·.1 == name)).map (·.2)

/-- `append`: one more value for a name. -/
def append (m : HeaderMap) (name : Str) (v : HeaderValue) : HeaderMap :=
  ⟨m.entries ++ [(name, v)]⟩

/-- `remove`: the name's values removed. -/
def remove (m : HeaderMap) (name : Str) : HeaderMap := ⟨m.entries.filter (·.1 != name)⟩

/-- `insert`: the name's values replaced by one. -/
def insert (m : HeaderMap) (name : Str) (v : HeaderValue) : HeaderMap :=
  (m.remove name).append name v

@[simp] theorem getAll_append_self (m : HeaderMap) (name : Str) (v : HeaderValue) :
    (m.append name v).getAll name = m.getAll name ++ [v] := by
  simp [getAll, append, List.filter_append]

@[simp] theorem getAll_remove (m : HeaderMap) (name other : Str) :
    (m.remove other).getAll name = if name = other then [] else m.getAll name := by
  split
  · subst name; simp [getAll, remove, List.filter_filter]
  · rename_i hne
    simp only [getAll, remove, List.filter_filter]
    congr 2
    funext e
    by_cases he : e.1 = name
    · simp [he, hne]
    · simp [he]

@[simp] theorem getAll_insert_self (m : HeaderMap) (name : Str) (v : HeaderValue) :
    (m.insert name v).getAll name = [v] := by
  simp [insert]

end HeaderMap

/-- `SEC_WEBSOCKET_EXTENSIONS`. -/
def secWebsocketExtensions : Str := "sec-websocket-extensions".toList

end Tungstenite
