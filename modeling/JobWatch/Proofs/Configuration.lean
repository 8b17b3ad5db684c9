import JobWatch.Config.Basic
import JobWatch.Proofs.BlankText
import Mathlib.Logic.Function.Basic

/-!
# Usable configurations

Whatever the variables say, the configuration they give can be worked with: periods, limits and
timeouts are positive, the base address can be continued by a path, and a token has blanks at
neither end. One bound is not kept. A capacity is checked from below only, so a numeral above what
a channel can be asked for goes through, and no other does.

Each setting is read from one variable, so a variable has a say in one field at most.
-/

set_option autoImplicit false

namespace JobWatch

/-- The greatest capacity that a channel can be asked for: half the range of a machine word. -/
def Channel.largestRequest : Nat := (UInt64.size - 1) / 2

/-! ## Trimmed ends -/

namespace Text

variable {p : Char → Bool} {cs : List Char} {c : Char}

theorem head?_dropWhile (first : (cs.dropWhile p).head? = some c) : p c = false := by
  rw [← List.find?_not_eq_head?_dropWhile] at first
  simpa using List.find?_some first

theorem getLast?_dropEndWhile (last : (dropEndWhile p cs).getLast? = some c) : p c = false := by
  rw [dropEndWhile, List.getLast?_reverse] at last
  exact head?_dropWhile last

theorem head?_dropEndWhile (first : (dropEndWhile p cs).head? = some c) : cs.head? = some c := by
  have start : dropEndWhile p cs <+: cs := by
    rw [← List.reverse_suffix, dropEndWhile, List.reverse_reverse]
    exact List.dropWhile_suffix p
  obtain ⟨dropped, split⟩ := start
  rw [← split, List.head?_append, first, Option.some_or]

theorem head?_trimWhile (first : (trimWhile p cs).head? = some c) : p c = false :=
  head?_dropWhile (head?_dropEndWhile first)

/-- A text with something in it and blanks at neither end. -/
structure Bare (text : String) : Prop where
  given : text ≠ ""
  start : ∀ c, text.toList.head? = some c → isBlank c = false
  finish : ∀ c, text.toList.getLast? = some c → isBlank c = false

theorem bare_trim {text : String} (given : trim text ≠ "") : Bare (trim text) where
  given := given
  start c first := head?_trimWhile (by simpa [trim] using first)
  finish c last := getLast?_dropEndWhile (by simpa [trim, trimWhile] using last)

end Text

namespace Config

variable {lookup first second : String → Option String}

/-! ## Usable values -/

/-- What the parts of the tracker rely on, apart from the upper limit of the capacity. -/
structure Usable (config : Config) : Prop where
  pollInterval_pos : 1 ≤ config.pollIntervalMillis
  retryLimit_pos : 1 ≤ config.retryLimit
  requestTimeout_pos : 1 ≤ config.requestTimeoutSeconds
  eventCapacity_pos : 1 ≤ config.eventCapacity
  baseUrl_given : config.apiBaseUrl ≠ ""
  baseUrl_open : config.apiBaseUrl.toList.getLast? ≠ some '/'
  token_bare : ∀ token, config.apiToken = some token → Text.Bare token

theorem nonEmpty?_eq_some_iff {text given : String} :
    nonEmpty? text = some given ↔ text = given ∧ given ≠ "" := by
  rw [nonEmpty?]
  split
  · next empty =>
      rw [String.isEmpty_iff.mp empty]
      simp
  · next present =>
      rw [Option.some.injEq, and_iff_left_of_imp]
      intro same empty
      exact present (String.isEmpty_iff.mpr (same.trans empty))

theorem positiveOf?_eq_some_iff {bound n : Nat} {raw : String} :
    positiveOf? bound raw = some n ↔ numberOf? bound raw = some n ∧ 0 < n := by
  simp [positiveOf?, Option.filter_eq_some_iff]

/-- What holds of the default and of everything read from the variable holds of a setting. -/
theorem setting_of_default {α : Type} {motive : α → Prop} {given : Option String}
    {read : String → Option α} {default : α} (ofDefault : motive default)
    (ofRead : ∀ raw value, given = some raw → read raw = some value → motive value) :
    motive ((given.bind read).getD default) := by
  cases given with
  | none => exact ofDefault
  | some raw =>
      cases value : read raw with
      | none => simpa [value] using ofDefault
      | some value => simpa [value] using ofRead raw _ rfl value

theorem positive_setting {bound default : Nat} (given : Option String) (positive : 0 < default) :
    0 < (given.bind (positiveOf? bound)).getD default := by
  refine setting_of_default (motive := (0 < ·)) positive ?_
  intro raw n _ read
  exact (positiveOf?_eq_some_iff.mp read).2

theorem bounded_setting {bound default : Nat} (given : Option String) (small : default < bound) :
    (given.bind (positiveOf? bound)).getD default < bound := by
  refine setting_of_default (motive := (· < bound)) small ?_
  intro raw n _ read
  exact Text.lt_of_unsigned?_eq_some (positiveOf?_eq_some_iff.mp read).1

theorem retryLimit_ofLookup_pos : 1 ≤ (ofLookup lookup).retryLimit := by
  have small : 3 < UInt32.size := by decide
  rw [UInt32.le_iff_toNat_le, ofLookup, UInt32.toNat_ofNat_of_lt' (bounded_setting _ small)]
  exact positive_setting _ (by decide)

theorem baseUrlOf_open (raw : String) : (baseUrlOf raw).toList.getLast? ≠ some '/' := by
  intro last
  rw [baseUrlOf, String.toList_ofList] at last
  cases Text.getLast?_dropEndWhile last

theorem baseUrl_ofLookup :
    (ofLookup lookup).apiBaseUrl ≠ "" ∧ (ofLookup lookup).apiBaseUrl.toList.getLast? ≠ some '/' := by
  refine setting_of_default (motive := fun url => url ≠ "" ∧ url.toList.getLast? ≠ some '/')
    (by decide) ?_
  intro raw url _ read
  obtain ⟨same, given⟩ := nonEmpty?_eq_some_iff.mp read
  exact ⟨given, same ▸ baseUrlOf_open raw⟩

theorem token_ofLookup {token : String} (given : (ofLookup lookup).apiToken = some token) :
    Text.Bare token := by
  obtain ⟨raw, _, read⟩ := Option.bind_eq_some_iff.mp given
  obtain ⟨same, present⟩ := nonEmpty?_eq_some_iff.mp read
  rw [← same] at present ⊢
  exact Text.bare_trim present

theorem usable_ofLookup : (ofLookup lookup).Usable where
  pollInterval_pos := positive_setting _ (by decide)
  retryLimit_pos := retryLimit_ofLookup_pos
  requestTimeout_pos := positive_setting _ (by decide)
  eventCapacity_pos := positive_setting _ (by decide)
  baseUrl_given := baseUrl_ofLookup.1
  baseUrl_open := baseUrl_ofLookup.2
  token_bare _ given := token_ofLookup given

/-! ## The capacity -/

/-- A capacity is given as a numeral that fits into a machine word and is too great for a
channel. -/
def OversizedCapacity (lookup : String → Option String) : Prop :=
  ∃ raw n, lookup "LINTAI_EVENT_CAPACITY" = some raw ∧ numberOf? UInt64.size raw = some n ∧
    Channel.largestRequest < n

theorem eventCapacity_le_iff :
    (ofLookup lookup).eventCapacity ≤ Channel.largestRequest ↔ ¬ OversizedCapacity lookup := by
  have standard : 64 ≤ Channel.largestRequest := by decide
  constructor
  · intro small ⟨raw, n, given, read, great⟩
    have positive : 0 < n := Nat.zero_lt_of_lt great
    have taken : (ofLookup lookup).eventCapacity = n := by
      simp only [ofLookup, given, Option.bind_some, positiveOf?_eq_some_iff.mpr ⟨read, positive⟩,
        Option.getD_some]
    omega
  · intro fits
    refine setting_of_default (motive := (· ≤ Channel.largestRequest)) standard ?_
    intro raw n given read
    by_contra great
    exact fits ⟨raw, n, given, (positiveOf?_eq_some_iff.mp read).1, Nat.lt_of_not_le great⟩

/-! ## One variable for each setting -/

inductive Setting where
  | bindAddress
  | apiBaseUrl
  | apiToken
  | pollInterval
  | retryLimit
  | lastResultTtl
  | requestTimeout
  | eventCapacity
  deriving DecidableEq

namespace Setting

def key : Setting → String
  | bindAddress => "LINTAI_TRACKER_BIND_ADDR"
  | apiBaseUrl => "LINTAI_API_BASE_URL"
  | apiToken => "LINTAI_API_TOKEN"
  | pollInterval => "LINTAI_POLL_INTERVAL_MS"
  | retryLimit => "LINTAI_RETRY_LIMIT"
  | lastResultTtl => "LINTAI_LAST_RESULT_TTL_SECONDS"
  | requestTimeout => "LINTAI_REQUEST_TIMEOUT_SECONDS"
  | eventCapacity => "LINTAI_EVENT_CAPACITY"

def Value : Setting → Type
  | bindAddress => SocketAddress
  | apiBaseUrl => String
  | apiToken => Option String
  | retryLimit => UInt32
  | pollInterval | lastResultTtl | requestTimeout | eventCapacity => Nat

theorem key_injective : Function.Injective key := by
  intro setting other same
  cases setting <;> cases other <;> first | rfl | exact absurd same (by decide)

end Setting

def field (config : Config) : (setting : Setting) → setting.Value
  | .bindAddress => config.bindAddress
  | .apiBaseUrl => config.apiBaseUrl
  | .apiToken => config.apiToken
  | .pollInterval => config.pollIntervalMillis
  | .retryLimit => config.retryLimit
  | .lastResultTtl => config.lastResultTtlSeconds
  | .requestTimeout => config.requestTimeoutSeconds
  | .eventCapacity => config.eventCapacity

theorem field_ofLookup_congr {setting : Setting} (agree : first setting.key = second setting.key) :
    (ofLookup first).field setting = (ofLookup second).field setting := by
  cases setting <;> rw [Setting.key] at agree <;> simp only [ofLookup, field, agree] <;> rfl

/-- Every set of variables gives a usable configuration, whose capacity a channel accepts unless
the variable holds a greater numeral; and a change of one variable leaves every field alone that
is not read from it. -/
theorem usable_unless_capacity_oversized (lookup : String → Option String) :
    (ofLookup lookup).Usable ∧
    ((ofLookup lookup).eventCapacity ≤ Channel.largestRequest ↔ ¬ OversizedCapacity lookup) ∧
    (∀ (changed : String) (value : Option String) (setting : Setting), setting.key ≠ changed →
      (ofLookup (Function.update lookup changed value)).field setting =
        (ofLookup lookup).field setting) ∧
    Function.Injective Setting.key := by
  refine ⟨usable_ofLookup, eventCapacity_le_iff, ?_, Setting.key_injective⟩
  intro changed value setting other
  exact field_ofLookup_congr (Function.update_of_ne other value lookup)

/-- The greatest machine word is taken for a capacity. -/
theorem capacity_beyond_channel :
    let lookup : String → Option String := fun name =>
      if name = "LINTAI_EVENT_CAPACITY" then some "18446744073709551615" else none
    (ofLookup lookup).eventCapacity = 18446744073709551615 ∧
    Channel.largestRequest < (ofLookup lookup).eventCapacity := by
  decide

end Config

end JobWatch
