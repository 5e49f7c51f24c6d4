import NetworkAgent.Library.Checks
import NetworkAgent.Domain.Models

/-! The payload policy of every repository write: no labelled subscriber identifier, a
bounded nesting depth and a bounded canonical size. -/
namespace NetworkAgent

/-- What the standard library supplies: the hexadecimal SHA-256 digest of some bytes, the
shortest text of a binary64 number, and the alphanumeric characters. -/
structure Host where
  sha256 : List Nat → Sha256.Digest
  floatRepr : ℚ → String
  isAlnum : Char → Bool
  isAlnum_of_isSpace : ∀ c, isSpace c = true → isAlnum c = false

theorem isAlphanum_of_isSpace (c : Char) (h : isSpace c = true) : c.isAlphanum = false := by
  have bound : c.toNat = c.val.toNat := rfl
  simp only [isSpace, isWhiteSpace, Bool.or_eq_true, Bool.and_eq_true, decide_eq_true_eq,
    beq_iff_eq] at h
  delta Char.isAlphanum Char.isAlpha Char.isUpper Char.isLower Char.isDigit
  simp only [Bool.or_eq_false_iff, Bool.and_eq_false_iff, decide_eq_false_iff_not, ge_iff_le,
    UInt32.le_iff_toNat_le]
  simp only [← bound]
  refine ⟨⟨?_, ?_⟩, ?_⟩ <;> simp <;> omega

def Host.ascii : Host where
  sha256 := Sha256.digest
  floatRepr q := toString q.num ++ ".0"
  isAlnum := Char.isAlphanum
  isAlnum_of_isSpace := isAlphanum_of_isSpace

def Host.canonicalJson (h : Host) (value : Json) : List Nat := value.bytes h.floatRepr

def sensitiveKeyNames : List String :=
  ["imsi", "msisdn", "imei", "imeisv", "supi", "suci", "subscriberid", "subscriberidentity",
    "subscriberpermanentidentifier", "subscriptionconcealedidentifier"]

def labels : List String := ["imsi", "msisdn", "imei", "imeisv", "supi", "suci"]

/-- Lower case as a case-insensitive pattern sees it: four characters outside ASCII
match the letters i, s and k. -/
def foldCase (c : Char) : Char :=
  if 'A' ≤ c ∧ c ≤ 'Z' then Char.ofNat (c.toNat + 32)
  else if c.toNat = 0x130 ∨ c.toNat = 0x131 then 'i'
  else if c.toNat = 0x17F then 's'
  else if c.toNat = 0x212A then 'k'
  else c

def isLowerOrDigit (c : Char) : Bool := ('a' ≤ c && c ≤ 'z') || ('0' ≤ c && c ≤ '9')

/-- The class `[+a-z0-9_-]` without case. -/
def isValueChar (c : Char) : Bool :=
  let f := foldCase c
  isLowerOrDigit f || f == '+' || f == '_' || f == '-'

def isWord (h : Host) (c : Char) : Bool := h.isAlnum c || c == '_'

def afterLabel (label : List Char) (cs : List Char) : Option (List Char) :=
  match label, cs with
  | [], rest => some rest
  | _ :: _, [] => none
  | l :: label, c :: cs => if foldCase c = l then afterLabel label cs else none

/-- At least six value characters. The optional prefix of the pattern only asks for more. -/
def startsValue (cs : List Char) : Bool := decide (6 ≤ (cs.takeWhile isValueChar).length)

/-- A separator is a run of blanks, or one of `-:=` with blanks on either side. -/
def startsSeparatorValue (cs : List Char) : Bool :=
  let rest := cs.dropWhile isSpace
  (decide (rest.length < cs.length) && startsValue rest) ||
    match rest with
    | c :: tail => (c == '-' || c == ':' || c == '=') && startsValue (tail.dropWhile isSpace)
    | [] => false

/-- A match of the pattern that starts here. The character after the label is a
separator, so the second word boundary of the pattern always holds. -/
def matchesHere (cs : List Char) : Bool :=
  labels.any fun label => match afterLabel label.toList cs with
    | some rest => startsSeparatorValue rest
    | none => false

/-- Search from the front; `before` says whether the previous character is a word character. -/
def searchFrom (h : Host) (before : Bool) : List Char → Bool
  | [] => false
  | c :: cs => (!before && matchesHere (c :: cs)) || searchFrom h (isWord h c) cs

def labeledIdentifier (h : Host) (s : String) : Bool := searchFrom h false (Text.chars s)

example : labeledIdentifier Host.ascii "see IMSI: 00101123" = true := by decide

/-- Lower case, then only ASCII letters and digits. Two characters outside ASCII have an
ASCII letter in their lower case. -/
def normalizedKey (key : String) : String :=
  String.ofList (((Text.chars key).filterMap fun c =>
    let f := if c.toNat = 0x131 ∨ c.toNat = 0x17F then c else foldCase c
    if isLowerOrDigit f then some f else none))

def isSensitiveKey (key : String) : Bool := sensitiveKeyNames.contains (normalizedKey key)

def isEmptyValue : Json → Bool
  | .null => true
  | .str s => s == ""
  | .arr items => items.isEmpty
  | .obj fields => fields.isEmpty
  | _ => false

mutual
/-- The paths that hold a raw subscriber identifier; the identifier is never in the path. -/
def findSensitivePaths (h : Host) (path : String) : Json → List String
  | .str s => if labeledIdentifier h s then [path] else []
  | .arr items => sensitiveItems h path 0 items
  | .obj fields => sensitiveFields h path fields
  | _ => []
def sensitiveItems (h : Host) (path : String) (index : Nat) : List Json → List String
  | [] => []
  | x :: xs =>
    findSensitivePaths h (path ++ "[" ++ toString index ++ "]") x ++
      sensitiveItems h path (index + 1) xs
def sensitiveFields (h : Host) (path : String) : List (String × Json) → List String
  | [] => []
  | (key, x) :: xs =>
    (if labeledIdentifier h key then [path ++ ".<sensitive-key>"]
     else if isSensitiveKey key && !isEmptyValue x then [path ++ "." ++ key]
     else findSensitivePaths h (path ++ "." ++ key) x) ++ sensitiveFields h path xs
end

/-! Every label and every sensitive name begins with `im`, `ms` or `su`. A text of ASCII bytes
without these pairs is passed on its bytes, and only the others are searched. -/

def startsLabel (a b : Nat) : Bool :=
  let pair := Nat.lor a 32 * 256 + Nat.lor b 32
  Nat.beq pair 26989 || Nat.beq pair 28019 || Nat.beq pair 29557

def isPlainText : List Nat → Bool
  | [] => true
  | [a] => Nat.blt a 128
  | a :: b :: rest => Nat.blt a 128 && (!startsLabel a b && isPlainText (b :: rest))

def isLetterOrDigit (byte : Nat) : Bool :=
  (Nat.ble 48 byte && Nat.ble byte 57) || (Nat.ble 65 byte && Nat.ble byte 90) ||
    (Nat.ble 97 byte && Nat.ble byte 122)

def isPlainKey (bytes : List Nat) : Bool :=
  isPlainText bytes && match bytes.filter isLetterOrDigit with
    | a :: b :: _ => !startsLabel a b
    | _ => true

def normalizedChar (c : Char) : Option Char :=
  let f := if c.toNat = 0x131 ∨ c.toNat = 0x17F then c else foldCase c
  if isLowerOrDigit f then some f else none

theorem normalizedChar_ascii : ∀ a < 128, (Char.ofNat a).toNat = a ∧
    (Char.ofNat (Nat.lor a 32)).toNat = Nat.lor a 32 ∧ normalizedChar (Char.ofNat a) =
      if isLetterOrDigit a then some (Char.ofNat (Nat.lor a 32)) else none := by decide +kernel

theorem lor_of_foldCase {a : Nat} {l : Char} (low : a < 128) (same : foldCase (Char.ofNat a) = l)
    (letter : isLowerOrDigit l = true) : Nat.lor a 32 = l.toNat := by
  obtain ⟨small, code, normal⟩ := normalizedChar_ascii a low
  have normal' : normalizedChar (Char.ofNat a) = some l := by
    have exotic : ¬ (a = 0x131 ∨ a = 0x17F) := by omega
    simp [normalizedChar, small, same, exotic, letter]
  rw [normal'] at normal
  split at normal
  · rw [← code, Option.some.inj normal]
  · cases normal

theorem not_startsLabel {a b n : Nat} (other : startsLabel a b = false)
    (begins : n ∈ [26989, 28019, 29557]) : Nat.lor a 32 * 256 + Nat.lor b 32 ≠ n := by
  intro same
  simp only [startsLabel, same] at other
  simp only [List.mem_cons, List.not_mem_nil, or_false] at begins
  rcases begins with rfl | rfl | rfl <;> cases other

theorem matchesHere_of_pair {a b : Nat} (low : a < 128) (low' : b < 128)
    (other : startsLabel a b = false) (cs : List Char) :
    matchesHere (Char.ofNat a :: Char.ofNat b :: cs) = false := by
  have pair : ∀ l l' : Char, isLowerOrDigit l = true → isLowerOrDigit l' = true →
      l.toNat * 256 + l'.toNat ∈ [26989, 28019, 29557] →
      foldCase (Char.ofNat a) = l → foldCase (Char.ofNat b) ≠ l' := by
    intro l l' letter letter' begins same same'
    apply not_startsLabel other begins
    rw [lor_of_foldCase low same letter, lor_of_foldCase low' same' letter']
  have im := pair 'i' 'm' rfl rfl (by decide)
  have ms := pair 'm' 's' rfl rfl (by decide)
  have su := pair 's' 'u' rfl rfl (by decide)
  simp only [matchesHere, labels, List.any_cons, List.any_nil, Bool.or_false, Bool.or_eq_false_iff]
  refine ⟨?_, ?_, ?_, ?_, ?_, ?_⟩ <;> simp [afterLabel]
  all_goals split <;> simp_all

theorem decode_ascii_cons {a : Nat} (low : a < 128) (rest : List Nat) :
    Text.decode (a :: rest) = Char.ofNat a :: Text.decode rest := by
  conv_lhs => rw [Text.decode.eq_def]
  exact if_pos low

theorem isPlainText_cons {a : Nat} {rest : List Nat} (plain : isPlainText (a :: rest) = true) :
    a < 128 ∧ isPlainText rest = true := by
  cases rest with
  | nil =>
    simp only [isPlainText, Nat.blt, Nat.ble_eq] at plain
    exact ⟨plain, rfl⟩
  | cons b rest =>
    simp only [isPlainText, Bool.and_eq_true, Nat.blt, Nat.ble_eq] at plain
    exact ⟨plain.1, plain.2.2⟩

theorem searchFrom_of_isPlainText {h : Host} {bytes : List Nat} (plain : isPlainText bytes = true)
    (before : Bool) : searchFrom h before (Text.decode bytes) = false := by
  induction bytes generalizing before with
  | nil => rfl
  | cons a rest ih =>
    obtain ⟨low, later⟩ := isPlainText_cons plain
    rw [decode_ascii_cons low, searchFrom, ih later, Bool.or_false]
    cases rest with
    | nil => simp [Text.decode, matchesHere, labels, afterLabel]
    | cons b rest =>
      have low' := (isPlainText_cons later).1
      simp only [isPlainText, Bool.and_eq_true, Bool.not_eq_true'] at plain
      rw [decode_ascii_cons low', matchesHere_of_pair low low' plain.2.1, Bool.and_false]

theorem normalizedKey_of_isPlainText {bytes : List Nat} (plain : isPlainText bytes = true) :
    (Text.decode bytes).filterMap normalizedChar =
      (bytes.filter isLetterOrDigit).map fun a => Char.ofNat (Nat.lor a 32) := by
  induction bytes with
  | nil => rfl
  | cons a rest ih =>
    obtain ⟨low, later⟩ := isPlainText_cons plain
    rw [decode_ascii_cons low, List.filterMap_cons, (normalizedChar_ascii a low).2.2,
      List.filter_cons, ih later]
    cases isLetterOrDigit a <;> rfl

theorem isSensitiveKey_of_isPlainKey {key : String} (plain : isPlainKey (utf8 key) = true) :
    isSensitiveKey key = false := by
  obtain ⟨plain, other⟩ := Bool.and_eq_true_iff.mp plain
  have letters : (normalizedKey key).toList =
      ((utf8 key).filter isLetterOrDigit).map fun a => Char.ofNat (Nat.lor a 32) := by
    rw [normalizedKey, String.toList_ofList]
    exact normalizedKey_of_isPlainText plain
  have begins : ∀ name ∈ sensitiveKeyNames, ∃ c d rest, name.toList = c :: d :: rest ∧
      c.toNat * 256 + d.toNat ∈ [26989, 28019, 29557] := by
    simp only [sensitiveKeyNames, List.forall_mem_cons, List.not_mem_nil, false_imp_iff,
      implies_true, and_true]
    and_intros <;> exact ⟨_, _, _, rfl, by decide⟩
  rw [isSensitiveKey, Bool.eq_false_iff, ne_eq, List.contains_iff_mem]
  intro member
  obtain ⟨c, d, rest, named, pair⟩ := begins _ member
  rw [letters] at named
  generalize shown : (utf8 key).filter isLetterOrDigit = bytes at named other
  obtain _ | ⟨a, _ | ⟨b, bytes⟩⟩ := bytes
  · cases named
  · cases named
  · simp only [List.map_cons, List.cons.injEq] at named
    have low : ∀ x ∈ utf8 key, x < 128 := by
      clear other shown
      generalize utf8 key = bytes at plain
      induction bytes with
      | nil => simp
      | cons x rest ih =>
        obtain ⟨low, later⟩ := isPlainText_cons plain
        exact List.forall_mem_cons.mpr ⟨low, ih later⟩
    have inside : ∀ x ∈ a :: b :: bytes, x < 128 := fun x there =>
      low x (List.mem_of_mem_filter (shown ▸ there))
    apply not_startsLabel (Bool.not_eq_true' _ ▸ other) pair
    rw [← named.1, ← named.2.1, (normalizedChar_ascii a (inside a (by simp))).2.1,
      (normalizedChar_ascii b (inside b (by simp))).2.1]

mutual
/-- Whether a value has no sensitive path. -/
def isQuiet (h : Host) : Json → Bool
  | .str s => isPlainText (utf8 s) || !labeledIdentifier h s
  | .arr items => isQuietItems h items
  | .obj fields => isQuietFields h fields
  | _ => true
def isQuietItems (h : Host) : List Json → Bool
  | [] => true
  | x :: xs => isQuiet h x && isQuietItems h xs
def isQuietFields (h : Host) : List (String × Json) → Bool
  | [] => true
  | (key, x) :: xs =>
    (isPlainKey (utf8 key) ||
      !labeledIdentifier h key && !(isSensitiveKey key && !isEmptyValue x)) &&
      (isQuiet h x && isQuietFields h xs)
end

mutual
theorem isQuiet_iff (h : Host) (path : String) : (value : Json) →
    (isQuiet h value = true ↔ findSensitivePaths h path value = [])
  | .null | .bool _ | .int _ | .float _ => by simp [isQuiet, findSensitivePaths]
  | .str s => by
    rw [isQuiet, findSensitivePaths]
    cases plain : isPlainText (utf8 s) with
    | false => simp
    | true => simp [labeledIdentifier, Text.chars, searchFrom_of_isPlainText plain]
  | .arr items => by
    rw [isQuiet, findSensitivePaths]
    exact isQuietItems_iff h path 0 items
  | .obj fields => by
    rw [isQuiet, findSensitivePaths]
    exact isQuietFields_iff h path fields
theorem isQuietItems_iff (h : Host) (path : String) (index : Nat) : (items : List Json) →
    (isQuietItems h items = true ↔ sensitiveItems h path index items = [])
  | [] => by simp [isQuietItems, sensitiveItems]
  | x :: xs => by
    rw [isQuietItems, sensitiveItems, Bool.and_eq_true, List.append_eq_nil_iff,
      isQuiet_iff h _ x, isQuietItems_iff h path _ xs]
theorem isQuietFields_iff (h : Host) (path : String) : (fields : List (String × Json)) →
    (isQuietFields h fields = true ↔ sensitiveFields h path fields = [])
  | [] => by simp [isQuietFields, sensitiveFields]
  | (key, x) :: xs => by
    rw [isQuietFields, sensitiveFields, Bool.and_eq_true, Bool.and_eq_true,
      List.append_eq_nil_iff, isQuietFields_iff h path xs, isQuiet_iff h (path ++ "." ++ key) x,
      ← and_assoc]
    refine and_congr_left' ?_
    have plain : isPlainKey (utf8 key) = true →
        labeledIdentifier h key = false ∧ isSensitiveKey key = false := fun plain =>
      ⟨searchFrom_of_isPlainText (Bool.and_eq_true_iff.mp plain).1 false,
        isSensitiveKey_of_isPlainKey plain⟩
    cases known : isPlainKey (utf8 key) with
    | true => simp [plain known]
    | false => cases labeledIdentifier h key <;> cases isSensitiveKey key && !isEmptyValue x <;> simp
end

instance decidableNoSensitivePaths (h : Host) (path : String) (value : Json) :
    Decidable (findSensitivePaths h path value = []) :=
  decidable_of_iff _ (isQuiet_iff h path value)

def maxContractDepth : Nat := 24
def maxContractSerializedBytes : Nat := 256000
def maxRepositoryBatchBytes : Nat := 64 * 1024 * 1024

inductive UnsafeReason where
  | privacy | depth | size | batch
  deriving DecidableEq

def serializedBytes (h : Host) (value : Json) : Nat := (h.canonicalJson value).length

instance decidableSerializedBytesLe (h : Host) (value : Json) (n : Nat) :
    Decidable (serializedBytes h value ≤ n) := decidable_of_iff _ Json.size_le_iff

/-- `_assert_repository_safe`; the answer on success is the canonical size. -/
def assertRepositorySafe (h : Host) (value : Json) : Except UnsafeReason Nat := do
  Checks.require (findSensitivePaths h "$" value = []) .privacy
  Checks.require (value.depth ≤ maxContractDepth) .depth
  Checks.require (serializedBytes h value ≤ maxContractSerializedBytes) .size
  return serializedBytes h value

def RepositorySafe (h : Host) (value : Json) : Prop :=
  findSensitivePaths h "$" value = [] ∧ value.depth ≤ maxContractDepth ∧
    serializedBytes h value ≤ maxContractSerializedBytes

instance (h : Host) (value : Json) : Decidable (RepositorySafe h value) :=
  inferInstanceAs (Decidable (_ ∧ _ ∧ _))

theorem assertRepositorySafe_ok {h : Host} {value : Json} {n : Nat} :
    assertRepositorySafe h value = .ok n ↔ RepositorySafe h value ∧ n = serializedBytes h value := by
  simp only [assertRepositorySafe, Checks.bind_ok, Checks.require_ok, RepositorySafe, pure,
    Except.pure, Except.ok.injEq]
  constructor
  · rintro ⟨_, privacy, _, depth, _, size, rfl⟩; exact ⟨⟨privacy, depth, size⟩, rfl⟩
  · rintro ⟨⟨privacy, depth, size⟩, rfl⟩; exact ⟨(), privacy, (), depth, (), size, rfl⟩

end NetworkAgent
