import Injector.Proofs.AccessorNames.Identifier
import Injector.Proofs.Ranking
import Injector.Proofs.Text.Line
/-!
Namesakes are keys with the same base name. As long as no base name looks like another one with a
number, namesakes are numbered in the order of their first requests, and requests for other keys
do not matter. So the order of requests decides which key gets a name and not which names there are.
-/
namespace Injector

section Numbers

theorem Text.underscore_not_mem_decimal (n : Nat) : '_' ∉ decimal n := by
  intro mem
  exact absurd (Nat.isDigit_of_mem_toDigits (by omega) (by omega) mem) (by decide)

/-- The last underscore is where a number was put after a text. -/
theorem Text.append_decimal_inj {text other : Text} {m n : Nat}
    (same : text ++ '_' :: decimal m = other ++ '_' :: decimal n) : text = other ∧ m = n := by
  have reversed := congrArg List.reverse same
  simp only [List.reverse_append, List.reverse_cons, List.append_assoc,
    List.singleton_append] at reversed
  have digits : ∀ n, '_' ∉ (decimal n).reverse := by
    intro n
    rw [List.mem_reverse]
    exact underscore_not_mem_decimal n
  obtain ⟨numbers, texts⟩ := append_cons_inj_of_not_mem (digits m) (digits n) reversed
  exact ⟨List.reverse_injective texts, decimal_injective (List.reverse_injective numbers)⟩

/-- The number after some text and an underscore, if there is one. -/
def Text.numberAfter (start text : Text) : Nat :=
  Nat.ofDigitChars 10 (text.drop (start.length + 1)) 0

theorem Text.numberAfter_append_decimal (start : Text) (n : Nat) :
    numberAfter start (start ++ '_' :: decimal n) = n := by
  have length : (start ++ ['_']).length = start.length + 1 := List.length_append
  rw [numberAfter, List.append_cons, ← length, List.drop_left]
  exact Nat.ofDigitChars_ten_toDigits

end Numbers

namespace AccessorNames

section Bases

/-- No key has the base name of another with a number of two or more after it. -/
def BasesApart (start : Text) (keys : List Key) : Prop :=
  ∀ key ∈ keys, ∀ other ∈ keys, ∀ n ≥ 2,
    baseName start key ≠ baseName start other ++ '_' :: Text.decimal n

-- The one number that can matter is read off the base name.
instance (start : Text) (keys : List Key) : Decidable (BasesApart start keys) :=
  let number (key other : Key) : Nat := Text.numberAfter (baseName start other) (baseName start key)
  decidable_of_iff (∀ key ∈ keys, ∀ other ∈ keys, number key other ≥ 2 →
      baseName start key ≠ baseName start other ++ '_' :: Text.decimal (number key other)) <| by
    refine ⟨fun h key mem other memOther n two same => ?_, fun h key mem other memOther => ?_⟩
    · have read : number key other = n := by
        simp only [number, same, Text.numberAfter_append_decimal]
      rw [← read] at two same
      exact h key mem other memOther two same
    · exact h key mem other memOther _

variable {start : Text} {keys others : List Key} {key other : Key}

theorem BasesApart.mono (apart : BasesApart start others) (h : ∀ key ∈ keys, key ∈ others) :
    BasesApart start keys :=
  fun key mem other memOther => apart key (h key mem) other (h other memOther)

theorem BasesApart.candidate_inj (apart : BasesApart start keys) (mem : key ∈ keys)
    (memOther : other ∈ keys) {i j : Nat}
    (same : candidate (baseName start key) i = candidate (baseName start other) j) :
    baseName start key = baseName start other ∧ i = j := by
  cases i with
  | zero =>
      cases j with
      | zero => exact ⟨same, rfl⟩
      | succ j => exact absurd same (apart key mem other memOther (j + 2) (by omega))
  | succ i =>
      cases j with
      | zero => exact absurd same.symm (apart other memOther key mem (i + 2) (by omega))
      | succ j =>
          obtain ⟨bases, numbers⟩ := Text.append_decimal_inj same
          exact ⟨bases, by omega⟩

end Bases

section Places

variable {start base : Text} {keys others : List Key} {key other : Key}

/-- The keys with a certain base name, each once, in the order of their first requests. -/
def namesakes (start base : Text) (keys : List Key) : List Key :=
  keys.eraseDups.filter fun key => baseName start key = base

/-- The place of a key among its namesakes; the first is at zero. -/
def place (start : Text) (keys : List Key) (key : Key) : Nat :=
  (namesakes start (baseName start key) keys).idxOf key

theorem nodup_namesakes (start base : Text) (keys : List Key) :
    (namesakes start base keys).Nodup :=
  (Ranking.nodup_eraseDups keys).filter _

theorem mem_namesakes : key ∈ namesakes start base keys ↔ key ∈ keys ∧ baseName start key = base := by
  rw [namesakes, List.mem_filter, List.mem_eraseDups, decide_eq_true_iff]

theorem place_lt_iff :
    place start keys key < (namesakes start (baseName start key) keys).length ↔ key ∈ keys := by
  rw [place, List.idxOf_lt_length_iff, mem_namesakes, and_iff_left rfl]

theorem place_of_getElem? {i : Nat} (h : (namesakes start base keys)[i]? = some key) :
    place start keys key = i := by
  obtain ⟨within, rfl⟩ := List.getElem?_eq_some_iff.mp h
  have same := (mem_namesakes.mp (List.getElem_mem within)).2
  rw [place, same]
  exact (nodup_namesakes start base keys).idxOf_getElem i within

/-- Later requests do not move a key. -/
theorem place_append_of_mem (mem : key ∈ keys) (more : List Key) :
    place start (keys ++ more) key = place start keys key := by
  rw [place, namesakes, List.eraseDups_append, List.filter_append]
  exact List.idxOf_append_of_mem (mem_namesakes.mpr ⟨mem, rfl⟩)

/-- A key that asks for the first time comes after its namesakes. -/
theorem place_concat_self (new : key ∉ keys) :
    place start (keys ++ [key]) key = (namesakes start (baseName start key) keys).length := by
  have one : ([key].removeAll keys).eraseDups = [key] := by
    simp [List.removeAll, List.eraseDups_cons, new]
  have last : namesakes start (baseName start key) (keys ++ [key]) =
      namesakes start (baseName start key) keys ++ [key] := by
    rw [namesakes, List.eraseDups_append, one, List.filter_append]
    simp [namesakes]
  have absent : key ∉ namesakes start (baseName start key) keys :=
    fun mem => new (mem_namesakes.mp mem).1
  rw [place, last, List.idxOf_append, if_neg absent, List.idxOf_cons_self, Nat.zero_add]

theorem length_namesakes_congr (h : ∀ key, key ∈ keys ↔ key ∈ others) (base : Text) :
    (namesakes start base keys).length = (namesakes start base others).length := by
  apply List.Perm.length_eq
  rw [List.perm_ext_iff_of_nodup (nodup_namesakes start base keys)
    (nodup_namesakes start base others)]
  intro key
  rw [mem_namesakes, mem_namesakes, h key]

/-- A key without other namesakes is the first of them. -/
theorem place_eq_zero (mem : key ∈ keys)
    (alone : ∀ other ∈ keys, baseName start other = baseName start key → other = key) :
    place start keys key = 0 := by
  have found : key ∈ namesakes start (baseName start key) keys := mem_namesakes.mpr ⟨mem, rfl⟩
  obtain ⟨first, rest, shape⟩ := List.exists_cons_of_ne_nil (List.ne_nil_of_mem found)
  have memFirst : first ∈ namesakes start (baseName start key) keys := by
    rw [shape]
    exact List.mem_cons_self
  obtain ⟨inside, same⟩ := mem_namesakes.mp memFirst
  rw [place, shape, alone first inside same, List.idxOf_cons_self]

end Places

end AccessorNames

namespace Ledger

open AccessorNames (baseName candidate namesakes place BasesApart)

section Numbering

variable {start : Text} {ledger : Ledger} {keys : List Key} {key : Key}

/-- Every answer is the base name with the place of its key among the namesakes. -/
def Numbered (start : Text) (ledger : Ledger) : Prop :=
  ∀ key name, (key, name) ∈ ledger.answers →
    name = candidate (baseName start key) (place start ledger.requests key)

/-- The numbered names of a base that are in use are the first ones, as many as there are
namesakes. -/
theorem Numbered.candidate_mem_used_iff (numbered : ledger.Numbered start) (sound : ledger.Sound)
    (apart : BasesApart start keys) (within : ∀ key ∈ ledger.requests, key ∈ keys)
    (mem : key ∈ keys) (i : Nat) :
    candidate (baseName start key) i ∈ ledger.names.used ↔
      i < (namesakes start (baseName start key) ledger.requests).length := by
  rw [sound.mem_used_iff]
  constructor
  · rintro ⟨other, answered⟩
    have asked : other ∈ ledger.requests := mem_requests.mpr ⟨_, answered⟩
    obtain ⟨bases, rfl⟩ :=
      apart.candidate_inj mem (within other asked) (numbered other _ answered)
    rw [bases]
    exact AccessorNames.place_lt_iff.mpr asked
  · intro lt
    have found := List.getElem?_eq_getElem lt
    obtain ⟨asked, bases⟩ := AccessorNames.mem_namesakes.mp (List.getElem_mem lt)
    obtain ⟨name, answered⟩ := mem_requests.mp asked
    have same := numbered _ name answered
    rw [bases, AccessorNames.place_of_getElem? found] at same
    rw [← same]
    exact ⟨_, answered⟩

theorem Numbered.request (numbered : ledger.Numbered start) (sound : ledger.Sound)
    (rooted : ledger.names.start = start) (apart : BasesApart start (ledger.requests ++ [key])) :
    (ledger.request key).2.Numbered start := by
  have kept : ∀ other name, (other, name) ∈ ledger.answers →
      name = candidate (baseName start other) (place start (ledger.requests ++ [key]) other) := by
    intro other name answered
    rw [AccessorNames.place_append_of_mem (mem_requests.mpr ⟨name, answered⟩)]
    exact numbered other name answered
  intro other name answered
  rw [requests_request]
  rw [answers_request, List.mem_append, List.mem_singleton] at answered
  rcases answered with before | now
  · exact kept other name before
  · obtain ⟨rfl, rfl⟩ := Prod.mk.inj now
    by_cases asked : other ∈ ledger.requests
    · obtain ⟨earlier, before⟩ := mem_requests.mp asked
      rw [AccessorNames.request_of_some ((sound.mem_answers other earlier).mp before)]
      exact kept other earlier before
    · -- The names of its namesakes are those that it finds in use.
      have here := List.mem_append_right ledger.requests (List.mem_singleton_self other)
      have taken := numbered.candidate_mem_used_iff sound apart
        (fun key mem => List.mem_append_left [other] mem) here
      rw [AccessorNames.place_concat_self asked,
        AccessorNames.request_of_none (sound.name?_eq_none asked), rooted,
        AccessorNames.freshName, AccessorNames.collisions_eq taken]

end Numbering

section Runs

variable {ε ω : Type} {start : Text} {uses others : List (Use ε ω)}

theorem numbered_run (apart : BasesApart start (run start uses).requests) :
    (run start uses).Numbered start := by
  induction uses using List.reverseRecOn with
  | nil =>
      intro key name answered
      cases answered
  | append_singleton uses use ih =>
      rw [run_concat] at apart ⊢
      rcases apply_cases (run start uses) use with none | ⟨key, one⟩
      · rw [none] at apart ⊢
        exact ih apart
      · rw [one] at apart ⊢
        rw [requests_request] at apart
        have earlier := apart.mono fun other mem => List.mem_append_left [key] mem
        exact (ih earlier).request (sound_run start uses) (rooted_run start uses).start_eq apart

/-- The names that are handed out depend only on which keys are asked for. -/
theorem mem_names_run_iff (apart : BasesApart start (run start uses).requests) (name : Text) :
    name ∈ (run start uses).answers.map (·.2) ↔
      ∃ key ∈ (run start uses).requests,
        ∃ i < (namesakes start (baseName start key) (run start uses).requests).length,
          name = candidate (baseName start key) i := by
  have sound := sound_run start uses
  have numbered := numbered_run apart
  rw [List.mem_map]
  constructor
  · rintro ⟨⟨key, _⟩, answered, rfl⟩
    have asked : key ∈ (run start uses).requests := mem_requests.mpr ⟨_, answered⟩
    exact ⟨key, asked, _, AccessorNames.place_lt_iff.mpr asked, numbered key _ answered⟩
  · rintro ⟨key, asked, i, lt, rfl⟩
    have taken := numbered.candidate_mem_used_iff sound apart (fun _ mem => mem) asked i
    obtain ⟨other, answered⟩ := (sound.mem_used_iff _).mp (taken.mpr lt)
    exact ⟨_, answered, rfl⟩

end Runs

/-- In a run in which no base name is another one with a number of two or more after it, the first
key to ask under a base name gets the base name itself, the second gets it with the number two, and
so on. All runs with the same requests hand out the same names, in whatever order they come, and
if the base names of different keys differ, all keys get their base names. -/
theorem run_numbers_namesakes {ε ω : Type} {start : Text} {uses : List (Use ε ω)}
    (apart : BasesApart start (run start uses).requests) :
    (∀ base i key, (namesakes start base (run start uses).requests)[i]? = some key →
      ∀ name, (key, name) ∈ (run start uses).answers ↔
        name = if i = 0 then base else base ++ '_' :: Text.decimal (i + 1)) ∧
    ∀ others : List (Use ε ω),
      (∀ key, key ∈ (run start others).requests ↔ key ∈ (run start uses).requests) →
      (∀ name, name ∈ (run start others).answers.map (·.2) ↔
        name ∈ (run start uses).answers.map (·.2)) ∧
      ((∀ a ∈ (run start uses).requests, ∀ b ∈ (run start uses).requests,
          baseName start a = baseName start b → a = b) →
        ∀ answer ∈ (run start others).answers, answer.2 = baseName start answer.1) := by
  constructor
  · intro base i key found name
    obtain ⟨asked, rfl⟩ := AccessorNames.mem_namesakes.mp (List.mem_of_getElem? found)
    obtain ⟨given, answered⟩ := mem_requests.mp asked
    have numbered := numbered_run apart key given answered
    rw [AccessorNames.place_of_getElem? found] at numbered
    have shape : candidate (baseName start key) i =
        if i = 0 then baseName start key
        else baseName start key ++ '_' :: Text.decimal (i + 1) := by
      cases i <;> rfl
    rw [← shape, ← numbered]
    have sound := sound_run start uses
    rw [sound.mem_answers] at answered ⊢
    rw [answered, Option.some.injEq, eq_comm]
  · intro others same
    have apartOthers : BasesApart start (run start others).requests :=
      apart.mono fun key => (same key).mp
    constructor
    · intro name
      rw [mem_names_run_iff apart, mem_names_run_iff apartOthers]
      simp only [same, AccessorNames.length_namesakes_congr same]
    · rintro differ ⟨key, name⟩ answered
      have asked : key ∈ (run start others).requests := mem_requests.mpr ⟨name, answered⟩
      have first : place start (run start others).requests key = 0 :=
        AccessorNames.place_eq_zero asked fun other mem =>
          differ other ((same other).mp mem) key ((same key).mp asked)
      rw [numbered_run apartOthers key name answered, first]
      rfl

/-- A number below two, or one that is written with a zero in front, does no harm. Three namesakes
are numbered, and in another order the same names go to other keys. -/
theorem run_numbers_namesakes_ints :
    let int : JavaType := .primitive "int".toList
    let asking (types : List JavaType) : List (Use Empty Empty) :=
      types.map fun type => .request (Key.ofType type)
    let one : JavaType := .classType "int.1".toList
    let two : JavaType := .classType "int.02".toList
    let first := run [] (asking [int, one, .array int, two, int, .array (.array int)])
    let second := run [] (asking [.array (.array int), two, .array int, one, int])
    BasesApart [] first.requests ∧
      (Key.ofType (.array (.array int)), "int_3".toList) ∈ first.answers ∧
      (Key.ofType int, "int_3".toList) ∈ second.answers ∧
      ∀ name, name ∈ second.answers.map (·.2) ↔ name ∈ first.answers.map (·.2) := by
  intro int asking one two first second
  have apart : BasesApart [] first.requests := by decide
  have apartSecond : BasesApart [] second.requests := by decide
  obtain ⟨numbers, orders⟩ := run_numbers_namesakes apart
  obtain ⟨numbersSecond, -⟩ := run_numbers_namesakes apartSecond
  have same : ∀ key, key ∈ second.requests ↔ key ∈ first.requests := by
    have subset : ∀ key ∈ second.requests, key ∈ first.requests := by decide
    have superset : ∀ key ∈ first.requests, key ∈ second.requests := by decide
    exact fun key => ⟨subset key, superset key⟩
  exact ⟨apart, (numbers "int".toList 2 _ (by decide) _).mpr (by decide),
    (numbersSecond "int".toList 2 _ (by decide) _).mpr (by decide), (orders _ same).1⟩

-- A base name that looks like a numbered one: here the order decides which names there are.
example :
    let int : JavaType := .primitive "int".toList
    let two : JavaType := .classType "int.2".toList
    let names (types : List JavaType) : List Text :=
      (run [] (types.map fun type => (.request (Key.ofType type) : Use Empty Empty))).answers.map
        (·.2)
    names [int, .array int, two] = ["int", "int_2", "int_2_2"].map String.toList ∧
      names [int, two, .array int] = ["int", "int_2", "int_3"].map String.toList := by
  decide

end Ledger

end Injector
