import ExtractionPrompt.Settings
import Mathlib.Data.List.TakeWhile
import Mathlib.Data.Nat.Digits.Defs

/-!
The environments that the server starts in.  A count is read from a numeral below its limit, and any
other text is refused for the first character by which it cannot be one.  The variables are looked
at in their order, and the first that is not sound is reported.  A numeral of zero is sound as a
number of connections, although that number is said to be positive.
-/

namespace ExtractionPrompt

def AllDigits (s : List Char) : Prop := ∀ c ∈ s, c.isDigit = true

instance (s : List Char) : Decidable (AllDigits s) :=
  decidable_of_iff (s.all Char.isDigit = true) List.all_eq_true

/-- A text without the plus sign that it may start with. -/
def unsigned : List Char → List Char
  | '+' :: rest => rest
  | s => s

/-- The text is a numeral of the number: decimal digits, at least one, perhaps behind a plus
sign. -/
def Denotes (s : String) (n : Nat) : Prop :=
  unsigned s.toList ≠ [] ∧ AllDigits (unsigned s.toList) ∧
    Nat.ofDigitChars 10 (unsigned s.toList) 0 = n

instance (s : String) (n : Nat) : Decidable (Denotes s n) :=
  inferInstanceAs (Decidable (_ ≠ _ ∧ AllDigits _ ∧ _ = _))

theorem Denotes.unique {s : String} {m n : Nat} (first : Denotes s m) (second : Denotes s n) :
    m = n :=
  first.2.2.symm.trans second.2.2

theorem le_ofDigitChars (digits : List Char) (value : Nat) :
    value ≤ Nat.ofDigitChars 10 digits value := by
  have shifted : value ≤ 10 ^ digits.length * value :=
    Nat.le_mul_of_pos_left value (Nat.pow_pos (by decide))
  rw [Nat.ofDigitChars_eq_ofDigitChars_zero]
  omega

/-- What the digits before the end, before another character, or before the limit is reached make of
a text. -/
inductive Counted (limit : Nat) (s : List Char) : Except CountFault Nat → Prop where
  | count (digits : AllDigits s) (small : Nat.ofDigitChars 10 s 0 < limit) :
      Counted limit s (.ok (Nat.ofDigitChars 10 s 0))
  | stray {digits : List Char} {c : Char} {rest : List Char} (split : s = digits ++ c :: rest)
      (numeral : AllDigits digits) (small : Nat.ofDigitChars 10 digits 0 < limit)
      (stray : c.isDigit = false) : Counted limit s (.error .invalidDigit)
  | large {digits rest : List Char} (split : s = digits ++ rest) (numeral : AllDigits digits)
      (large : limit ≤ Nat.ofDigitChars 10 digits 0) : Counted limit s (.error .tooLarge)

/-- One digit is read. -/
theorem countDigits_cons {limit value : Nat} {c : Char} (digit : c.isDigit = true)
    (rest : List Char) :
    countDigits limit value (c :: rest) =
      if limit ≤ 10 * value + (c.toNat - '0'.toNat) then .error .tooLarge
      else countDigits limit (10 * value + (c.toNat - '0'.toNat)) rest := by
  rw [countDigits, digit, Text.digitValue, Nat.mul_comm value 10]
  rfl

/-- Digits are read to their value while it is below the limit. -/
theorem countDigits_append {limit value : Nat} {digits : List Char} (numeral : AllDigits digits)
    (small : Nat.ofDigitChars 10 digits value < limit) (rest : List Char) :
    countDigits limit value (digits ++ rest) =
      countDigits limit (Nat.ofDigitChars 10 digits value) rest := by
  induction digits generalizing value with
  | nil => rfl
  | cons c more ih =>
    rw [Nat.ofDigitChars_cons] at small ⊢
    have grows := le_ofDigitChars more (10 * value + (c.toNat - '0'.toNat))
    rw [List.cons_append, countDigits_cons (numeral c List.mem_cons_self), if_neg (by omega)]
    exact ih (fun d member => numeral d (List.mem_cons_of_mem _ member)) small

/-- Once the value of the digits reaches the limit, it does not matter what follows them. -/
theorem countDigits_of_large {limit value : Nat} {digits : List Char} (numeral : AllDigits digits)
    (small : value < limit) (large : limit ≤ Nat.ofDigitChars 10 digits value) (rest : List Char) :
    countDigits limit value (digits ++ rest) = .error .tooLarge := by
  induction digits generalizing value with
  | nil =>
    rw [Nat.ofDigitChars_nil] at large
    omega
  | cons c more ih =>
    rw [Nat.ofDigitChars_cons] at large
    rw [List.cons_append, countDigits_cons (numeral c List.mem_cons_self)]
    by_cases reached : limit ≤ 10 * value + (c.toNat - '0'.toNat)
    · rw [if_pos reached]
    · rw [if_neg reached]
      exact ih (fun d member => numeral d (List.mem_cons_of_mem _ member)) (by omega) large

theorem Counted.countDigits_eq {limit : Nat} {s : List Char} {r : Except CountFault Nat}
    (positive : 0 < limit) (counted : Counted limit s r) : countDigits limit 0 s = r := by
  cases counted with
  | count digits small =>
    have read := countDigits_append digits small []
    rwa [List.append_nil, countDigits] at read
  | stray split numeral small stray =>
    rw [split, countDigits_append numeral small, countDigits, stray]
    rfl
  | large split numeral large => rw [split, countDigits_of_large numeral positive large]

theorem exists_counted (limit : Nat) (s : List Char) : ∃ r, Counted limit s r := by
  have numeral : AllDigits (s.takeWhile Char.isDigit) :=
    fun c member => List.mem_takeWhile_imp member
  have split : s = s.takeWhile Char.isDigit ++ s.dropWhile Char.isDigit :=
    List.takeWhile_append_dropWhile.symm
  by_cases small : Nat.ofDigitChars 10 (s.takeWhile Char.isDigit) 0 < limit
  · cases left : s.dropWhile Char.isDigit with
    | nil =>
      rw [left, List.append_nil] at split
      rw [← split] at numeral small
      exact ⟨_, .count numeral small⟩
    | cons c rest =>
      have stray := List.head?_dropWhile_not Char.isDigit s
      rw [left] at split stray
      exact ⟨_, .stray split numeral small (by simpa using stray)⟩
  · exact ⟨_, .large split numeral (Nat.le_of_not_lt small)⟩

theorem countDigits_eq_iff {limit : Nat} {s : List Char} {r : Except CountFault Nat}
    (positive : 0 < limit) :
    countDigits limit 0 s = r ↔ Counted limit s r := by
  refine ⟨?_, Counted.countDigits_eq positive⟩
  rintro rfl
  obtain ⟨r, counted⟩ := exists_counted limit s
  rwa [counted.countDigits_eq positive]

/-- Why a text is no numeral of a number below the limit. -/
inductive Refused (limit : Nat) (s : String) : CountFault → Prop where
  | empty (nothing : s = "") : Refused limit s .empty
  | bare (sign : s = "+") : Refused limit s .invalidDigit
  | faulty {fault : CountFault} (present : unsigned s.toList ≠ [])
      (counted : Counted limit (unsigned s.toList) (.error fault)) : Refused limit s fault

theorem parseCount_empty (limit : Nat) : parseCount limit "" = .error .empty := rfl

theorem parseCount_bare (limit : Nat) : parseCount limit "+" = .error .invalidDigit := rfl

theorem parseCount_of_present {limit : Nat} {s : String} (present : unsigned s.toList ≠ []) :
    parseCount limit s = countDigits limit 0 (unsigned s.toList) := by
  unfold parseCount
  split
  · rename_i nothing
    rw [nothing] at present
    exact absurd rfl present
  · rename_i sign
    rw [sign] at present
    exact absurd rfl present
  · rename_i digits _ sign
    rw [sign, unsigned]
  · rename_i nothing _ plain
    rw [unsigned]
    exact plain

theorem unsigned_eq_nil_iff (s : String) : unsigned s.toList = [] ↔ s = "" ∨ s = "+" := by
  constructor
  · intro gone
    unfold unsigned at gone
    split at gone
    · rename_i rest sign
      rw [gone] at sign
      exact .inr (String.toList_inj.1 sign)
    · exact .inl (String.toList_eq_nil_iff.1 gone)
  · rintro (rfl | rfl)
    · rfl
    · rfl

theorem parseCount_eq_ok_iff {limit : Nat} (positive : 0 < limit) {s : String} {n : Nat} :
    parseCount limit s = .ok n ↔ Denotes s n ∧ n < limit := by
  by_cases present : unsigned s.toList = []
  · have absent : ¬ Denotes s n := fun numeral => numeral.1 present
    rcases (unsigned_eq_nil_iff s).1 present with rfl | rfl
    · simp [parseCount_empty, absent]
    · simp [parseCount_bare, absent]
  · rw [parseCount_of_present present, countDigits_eq_iff positive]
    constructor
    · intro counted
      cases counted with
      | count digits small => exact ⟨⟨present, digits, rfl⟩, small⟩
    · rintro ⟨⟨-, digits, rfl⟩, small⟩
      exact .count digits small

theorem parseCount_eq_error_iff {limit : Nat} (positive : 0 < limit) {s : String}
    {fault : CountFault} :
    parseCount limit s = .error fault ↔ Refused limit s fault := by
  constructor
  · intro refused
    by_cases present : unsigned s.toList = []
    · rcases (unsigned_eq_nil_iff s).1 present with rfl | rfl
      · cases refused
        exact .empty rfl
      · cases refused
        exact .bare rfl
    · rw [parseCount_of_present present, countDigits_eq_iff positive] at refused
      exact .faulty present refused
  · intro refused
    cases refused with
    | empty nothing => rw [nothing, parseCount_empty]
    | bare sign => rw [sign, parseCount_bare]
    | faulty present counted => rw [parseCount_of_present present, counted.countDigits_eq positive]

/-- The number that a variable stands for, which is a default when it is not set. -/
def Stands (default : Nat) : Option String → Nat → Prop
  | none, n => n = default
  | some s, n => Denotes s n

theorem Stands.unique {default m n : Nat} {v : Option String} (first : Stands default v m)
    (second : Stands default v n) : m = n := by
  cases v with
  | none => exact first.trans second.symm
  | some s => exact Denotes.unique first second

section Variable

variable {limit default : Nat} {text : String} {v : Option String}

/-- A variable is read with the text of its default in its place when it is not set. -/
theorem parseCount_getD_eq_ok_iff (shown : Denotes text default)
    (small : default < limit) {n : Nat} :
    parseCount limit (v.getD text) = .ok n ↔ Stands default v n ∧ n < limit := by
  rw [parseCount_eq_ok_iff (by omega)]
  cases v with
  | none =>
    refine and_congr_left fun _ => ?_
    constructor
    · intro numeral
      exact numeral.unique shown
    · rintro rfl
      exact shown
  | some s => rfl

theorem parseCount_getD_eq_error_iff (shown : Denotes text default) (small : default < limit)
    {fault : CountFault} :
    parseCount limit (v.getD text) = .error fault ↔ ∃ s, v = some s ∧ Refused limit s fault := by
  cases v with
  | none =>
    have read : parseCount limit text = .ok default :=
      (parseCount_eq_ok_iff (by omega)).2 ⟨shown, small⟩
    simp [read]
  | some s => simp [parseCount_eq_error_iff (show 0 < limit by omega)]

end Variable

namespace Environment

/-- The first fault of an environment in the order of its variables. -/
inductive FirstFault (env : Environment) : SettingsError → Prop where
  | noDatabase (unset : env.databaseUrl = none) : FirstFault env .noDatabase
  | port {s : String} {fault : CountFault} (database : env.databaseUrl ≠ none)
      (given : env.port = some s)
      (refused : Refused (2 ^ 16) s fault) : FirstFault env (.port fault)
  | maxConnections {port : Nat} {s : String} {fault : CountFault}
      (database : env.databaseUrl ≠ none) (sound : Stands 8080 env.port port)
      (small : port < 2 ^ 16) (given : env.maxConnections = some s)
      (refused : Refused (2 ^ 32) s fault) : FirstFault env (.maxConnections fault)

/-- The database is named, the port stands for one, and the number of connections for one that is
not too small. -/
def Sound (fewest : Nat) (env : Environment) : Prop :=
  env.databaseUrl ≠ none ∧ (∃ port ≤ 65535, Stands 8080 env.port port) ∧
    ∃ n ≤ 4294967295, fewest ≤ n ∧ Stands 10 env.maxConnections n

theorem sound_one_iff (env : Environment) :
    env.Sound 1 ↔ env.Sound 0 ∧ ¬ Stands 10 env.maxConnections 0 := by
  constructor
  · rintro ⟨database, port, n, small, positive, stands⟩
    refine ⟨⟨database, port, n, small, n.zero_le, stands⟩, ?_⟩
    intro denotesZero
    have same := stands.unique denotesZero
    omega
  · rintro ⟨⟨database, port, n, small, -, stands⟩, nonzero⟩
    refine ⟨database, port, n, small, ?_, stands⟩
    by_contra few
    obtain rfl : n = 0 := by omega
    exact nonzero stands

end Environment

namespace Settings

variable {env : Environment}

theorem port_eq_ok_iff {n : Nat} :
    parseCount (Nat.pow 2 16) (env.port.getD "8080") = .ok n ↔
      Stands 8080 env.port n ∧ n < 2 ^ 16 :=
  parseCount_getD_eq_ok_iff (by decide) (by decide)

theorem port_eq_error_iff {fault : CountFault} :
    parseCount (Nat.pow 2 16) (env.port.getD "8080") = .error fault ↔
      ∃ s, env.port = some s ∧ Refused (2 ^ 16) s fault :=
  parseCount_getD_eq_error_iff (by decide : Denotes "8080" 8080) (by decide)

theorem maxConnections_eq_ok_iff {n : Nat} :
    parseCount (Nat.pow 2 32) (env.maxConnections.getD "10") = .ok n ↔
      Stands 10 env.maxConnections n ∧ n < 2 ^ 32 :=
  parseCount_getD_eq_ok_iff (by decide) (by decide)

theorem maxConnections_eq_error_iff {fault : CountFault} :
    parseCount (Nat.pow 2 32) (env.maxConnections.getD "10") = .error fault ↔
      ∃ s, env.maxConnections = some s ∧ Refused (2 ^ 32) s fault :=
  parseCount_getD_eq_error_iff (by decide : Denotes "10" 10) (by decide)

theorem ofEnvironment_eq_ok_iff {settings : Settings} :
    ofEnvironment env = .ok settings ↔
      env.databaseUrl = some settings.databaseUrl ∧ Stands 8080 env.port settings.port.toNat ∧
        env.logFilter.getD "info" = settings.logFilter ∧
        Stands 10 env.maxConnections settings.maxConnections.toNat := by
  unfold ofEnvironment
  constructor
  · intro read
    split at read
    · cases read
    · rename_i databaseUrl database
      split at read
      · cases read
      · rename_i port found
        split at read
        · cases read
        · rename_i n counted
          cases read
          obtain ⟨port, smallPort⟩ := port_eq_ok_iff.1 found
          obtain ⟨connections, smallCount⟩ := maxConnections_eq_ok_iff.1 counted
          refine ⟨database, ?_, rfl, ?_⟩
          · rwa [UInt16.toNat_ofNat_of_lt' smallPort]
          · rwa [UInt32.toNat_ofNat_of_lt' smallCount]
  · rintro ⟨database, port, logFilter, connections⟩
    have found := port_eq_ok_iff.2 ⟨port, settings.port.toNat_lt⟩
    have counted := maxConnections_eq_ok_iff.2 ⟨connections, settings.maxConnections.toNat_lt⟩
    rw [database]
    simp only [found, counted, UInt16.ofNat_toNat, UInt32.ofNat_toNat, logFilter]

theorem ofEnvironment_eq_error_iff {error : SettingsError} :
    ofEnvironment env = .error error ↔ env.FirstFault error := by
  unfold ofEnvironment
  constructor
  · intro failed
    split at failed
    · rename_i unset
      cases failed
      exact .noDatabase unset
    · rename_i databaseUrl database
      have set : env.databaseUrl ≠ none := by simp [database]
      split at failed
      · rename_i fault refused
        cases failed
        obtain ⟨s, given, refused⟩ := port_eq_error_iff.1 refused
        exact .port set given refused
      · rename_i port found
        obtain ⟨sound, small⟩ := port_eq_ok_iff.1 found
        split at failed
        · rename_i fault refused
          cases failed
          obtain ⟨s, given, refused⟩ := maxConnections_eq_error_iff.1 refused
          exact .maxConnections set sound small given refused
        · cases failed
  · intro first
    cases first with
    | noDatabase unset => rw [unset]
    | port database given refused =>
      obtain ⟨databaseUrl, set⟩ := Option.ne_none_iff_exists'.1 database
      rw [set]
      simp only [port_eq_error_iff.2 ⟨_, given, refused⟩]
    | maxConnections database sound small given refused =>
      obtain ⟨databaseUrl, set⟩ := Option.ne_none_iff_exists'.1 database
      rw [set]
      simp only [port_eq_ok_iff.2 ⟨sound, small⟩, maxConnections_eq_error_iff.2 ⟨_, given, refused⟩]

theorem exists_ofEnvironment_iff :
    (∃ settings, ofEnvironment env = .ok settings) ↔ env.Sound 0 := by
  constructor
  · rintro ⟨settings, read⟩
    obtain ⟨database, port, -, connections⟩ := ofEnvironment_eq_ok_iff.1 read
    have smallPort := settings.port.toNat_lt
    have smallCount := settings.maxConnections.toNat_lt
    exact ⟨by simp [database], ⟨_, by omega, port⟩, _, by omega, Nat.zero_le _, connections⟩
  · rintro ⟨database, ⟨port, smallPort, sound⟩, n, smallCount, -, stands⟩
    obtain ⟨databaseUrl, set⟩ := Option.ne_none_iff_exists'.1 database
    refine ⟨⟨databaseUrl, UInt16.ofNat port, env.logFilter.getD "info", UInt32.ofNat n⟩, ?_⟩
    refine ofEnvironment_eq_ok_iff.2 ⟨set, ?_, rfl, ?_⟩
    · rwa [UInt16.toNat_ofNat_of_lt' (by change port < 65536; omega)]
    · rwa [UInt32.toNat_ofNat_of_lt' (by change n < 4294967296; omega)]

/-- Settings are made of an environment exactly when it names the database, its port is not set or a
numeral up to the largest port, and its number of connections is not set or a numeral up to the
largest number, zero included; they hold what these stand for.  Any other environment is refused for
its first fault.  So a positive number of connections is not asked for, and it matters exactly where
everything is sound and that number is zero. -/
theorem ofEnvironment_exact (env : Environment) :
    ((∃ settings, ofEnvironment env = .ok settings) ↔ env.Sound 0) ∧
      (∀ settings, ofEnvironment env = .ok settings ↔
        env.databaseUrl = some settings.databaseUrl ∧ Stands 8080 env.port settings.port.toNat ∧
          env.logFilter.getD "info" = settings.logFilter ∧
          Stands 10 env.maxConnections settings.maxConnections.toNat) ∧
      (∀ error, ofEnvironment env = .error error ↔ env.FirstFault error) ∧
      (((∃ settings, ofEnvironment env = .ok settings) ↔ env.Sound 1) ↔
        ¬ (env.Sound 0 ∧ Stands 10 env.maxConnections 0)) := by
  refine ⟨exists_ofEnvironment_iff, fun _ => ofEnvironment_eq_ok_iff,
    fun _ => ofEnvironment_eq_error_iff, ?_⟩
  rw [exists_ofEnvironment_iff, env.sound_one_iff]
  tauto

/-- A server that would never get a connection. -/
def noConnections : Environment := ⟨some "postgres://localhost/app", none, none, some "0"⟩

/-- No connection at all is accepted as a positive number of them. -/
theorem accepted_without_connections :
    ¬ ∀ env : Environment, (∃ settings, ofEnvironment env = .ok settings) ↔ env.Sound 1 := by
  intro positive
  have accepted :
      ofEnvironment noConnections = .ok ⟨"postgres://localhost/app", 8080, "info", 0⟩ := by
    decide +kernel
  obtain ⟨-, -, n, -, few, stands⟩ := (positive noConnections).1 ⟨_, accepted⟩
  have unconnected : Stands 10 noConnections.maxConnections 0 := (by decide : Denotes "0" 0)
  have := stands.unique unconnected
  omega

end Settings

end ExtractionPrompt
