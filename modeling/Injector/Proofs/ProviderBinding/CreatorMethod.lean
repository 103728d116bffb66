import Injector.JavaType.SourceName
import Injector.ProviderBinding
import Injector.Proofs.AccessorNames.Ledger
import Injector.Proofs.ProviderBinding.Unwrapping
/-!
Creator methods, as emissions write them in the course of a run. A method calls the accessor of
the target that its binding depends on, and the accessor keeps its name, so that an emission that
is repeated at any later time writes the same method.
-/
namespace Injector

/-- A method that an emission has written: what the emission was asked for, the names that it
found, and the body that it gave to the writer. -/
structure CreatorMethod (ε : Type) where
  binding : ProviderBinding
  sourceName : JavaType → Except ε Text
  found : AccessorNames
  signature : Text
  body : Text

section Recording

variable {ε ω : Type}

/-- Writes as another writer does, and keeps each method that was written. -/
def recording (writeMethod : Text → Text → ω → Except ε Unit × ω) (signature body : Text)
    (record : ω × List (Text × Text)) : Except ε Unit × ω × List (Text × Text) :=
  match writeMethod signature body record.1 with
  | (.ok (), source) => (.ok (), source, record.2 ++ [(signature, body)])
  | (.error failure, source) => (.error failure, source, record.2)

/-- The methods that are written by a use of names. -/
def Ledger.Use.methods (found : AccessorNames) : Ledger.Use ε ω → List (CreatorMethod ε)
  | .request _ => []
  | .emit binding signature sourceName writeMethod source =>
      let emitter := ⟨sourceName, AccessorNames.request, recording writeMethod⟩
      (binding.emit emitter signature found (source, [])).2.2.2.map
        fun written => ⟨binding, sourceName, found, written.1, written.2⟩

/-- Some use in a run has written a method, with the names as they were at that time. -/
def Ledger.Wrote (start : Text) (uses : List (Ledger.Use ε ω)) (method : CreatorMethod ε) : Prop :=
  ∃ earlier use later, uses = earlier ++ use :: later ∧
    method ∈ use.methods (Ledger.run start earlier).names

/-- The lines of the body of a creator method: it returns a new provider, whose retrieval method
returns what a call of the accessor gives. -/
def ProviderBinding.creatorLines (providerName targetName accessor : Text) : List Text :=
  ["return new ".toList ++ providerName ++ "() \x7b".toList,
    "  public ".toList ++ targetName ++ " get() \x7b".toList,
    "    return ".toList ++ accessor ++ "();".toList,
    "  \x7d".toList,
    "\x7d;".toList]

/-- A method calls an accessor if its body reads like this, line by line: the types are those of the
method's binding, and the only call, on the third line, is a call of that accessor. -/
def CreatorMethod.Calls (method : CreatorMethod ε) (accessor : Text) : Prop :=
  ∃ providerName targetName,
    method.sourceName method.binding.provider.type = .ok providerName ∧
      method.sourceName method.binding.target.type = .ok targetName ∧
      method.body =
        ['\n'].intercalate (ProviderBinding.creatorLines providerName targetName accessor)

/-- A writer that appends every method to a source. -/
def MethodSource.accept (signature body : Text) (source : MethodSource) :
    Except ε Unit × MethodSource :=
  (.ok (), source.write signature body)

end Recording

section Methods

variable {ε ω : Type} {binding : ProviderBinding} {signature : Text}
  {sourceName : JavaType → Except ε Text} {writeMethod : Text → Text → ω → Except ε Unit × ω}
  {source : ω} {found : AccessorNames} {method : CreatorMethod ε}

theorem ProviderBinding.creatorBody_eq_intercalate (providerName targetName accessor : Text) :
    creatorBody providerName targetName accessor =
      ['\n'].intercalate (creatorLines providerName targetName accessor) := by
  calc
    creatorBody providerName targetName accessor =
        "return new ".toList ++ providerName ++
          ("() \x7b".toList ++ ['\n'] ++ "  public ".toList) ++ targetName ++
          (" get() \x7b".toList ++ ['\n'] ++ "    return ".toList) ++ accessor ++
          ("();".toList ++ ['\n'] ++ "  \x7d".toList ++ ['\n'] ++ "\x7d;".toList) := rfl
    _ = ['\n'].intercalate (creatorLines providerName targetName accessor) := by
      rw [creatorLines, List.intercalate_cons_cons, List.intercalate_cons_cons,
        List.intercalate_cons_cons, List.intercalate_cons_cons, List.intercalate_singleton]
      simp only [List.append_assoc]

theorem ProviderBinding.creatorBody_injective (providerName targetName : Text) :
    Function.Injective (creatorBody providerName targetName) := by
  intro accessor other same
  unfold creatorBody at same
  exact List.append_cancel_left (List.append_cancel_right same)

/-- The body that an emission composes reads like the body of a method that calls an accessor. -/
theorem CreatorMethod.calls_iff {accessor : Text} :
    method.Calls accessor ↔ ∃ providerName targetName,
      method.binding.typeNames method.sourceName = .ok (providerName, targetName) ∧
        method.body = ProviderBinding.creatorBody providerName targetName accessor := by
  simp only [Calls, ProviderBinding.typeNames_eq_ok_iff, ProviderBinding.creatorBody_eq_intercalate,
    and_assoc]

theorem CreatorMethod.Calls.unique {accessor other : Text} (h : method.Calls accessor)
    (h' : method.Calls other) : other = accessor := by
  obtain ⟨providerName, targetName, named, body⟩ := calls_iff.mp h
  obtain ⟨_, _, named', body'⟩ := calls_iff.mp h'
  obtain ⟨rfl, rfl⟩ := Prod.mk.inj (Except.ok.inj (named.symm.trans named'))
  exact ProviderBinding.creatorBody_injective providerName targetName (body'.symm.trans body)

theorem mem_recording_iff {body : Text} {written : Text × Text} :
    written ∈ (recording writeMethod signature body (source, [])).2.2 ↔
      written = (signature, body) ∧ (writeMethod signature body source).1 = .ok () := by
  rw [recording]
  cases writeMethod signature body source with
  | mk answer after => cases answer <;> simp

/-- What an emission writes calls the accessor that its target has or gets at that time. -/
theorem Ledger.Use.mem_methods_iff {use : Ledger.Use ε ω} :
    method ∈ use.methods found ↔
      method.found = found ∧ method.Calls (found.request method.binding.target).1 ∧
        ∃ writeMethod source,
          use = .emit method.binding method.signature method.sourceName writeMethod source ∧
            (writeMethod method.signature method.body source).1 = .ok () := by
  cases use with
  | request key => simp [methods]
  | emit binding signature sourceName writeMethod source =>
      rw [methods]
      constructor
      · intro mem
        cases named : binding.typeNames sourceName with
        | error failure =>
            rw [ProviderBinding.emit_of_error named] at mem
            cases mem
        | ok names =>
            rw [ProviderBinding.emit_of_ok named] at mem
            obtain ⟨written, recorded, rfl⟩ := List.mem_map.mp mem
            obtain ⟨rfl, taken⟩ := mem_recording_iff.mp recorded
            exact ⟨rfl, CreatorMethod.calls_iff.mpr ⟨_, _, named, rfl⟩, writeMethod, source, rfl,
              taken⟩
      · rintro ⟨rfl, calls, _, _, same, taken⟩
        obtain ⟨providerName, targetName, named, body⟩ := CreatorMethod.calls_iff.mp calls
        obtain ⟨rfl, rfl, rfl, rfl, rfl⟩ := Use.emit.inj same
        rw [ProviderBinding.emit_of_ok named]
        refine List.mem_map.mpr ⟨(method.signature, method.body), ?_, rfl⟩
        rw [body] at taken ⊢
        exact mem_recording_iff.mpr ⟨rfl, taken⟩

theorem ProviderBinding.typeNames_of_emit_ok {ν : Type} {accessor : Key → ν → Text × ν} {names : ν}
    (h : (binding.emit ⟨sourceName, accessor, writeMethod⟩ signature names source).1 = .ok ()) :
    ∃ providerName targetName, binding.typeNames sourceName = .ok (providerName, targetName) ∧
      (writeMethod signature
        (creatorBody providerName targetName (accessor binding.target names).1) source).1 =
          .ok () := by
  cases named : binding.typeNames sourceName with
  | error failure =>
      rw [emit_of_error named] at h
      cases h
  | ok found =>
      rw [emit_of_ok named] at h
      exact ⟨found.1, found.2, rfl, h⟩

theorem ProviderBinding.provider_ne_target (binding : ProviderBinding) :
    binding.provider ≠ binding.target := by
  intro same
  obtain ⟨raw, shape⟩ := binding.argument
  rw [same] at shape
  exact binding.target.type.ne_parameterized_single raw shape

end Methods

section Runs

variable {ε ω : Type} {start : Text} {uses : List (Ledger.Use ε ω)} {method : CreatorMethod ε}

theorem Ledger.wrote_of_emit (earlier later : List (Ledger.Use ε ω)) {binding : ProviderBinding}
    {signature : Text} {sourceName : JavaType → Except ε Text}
    {writeMethod : Text → Text → ω → Except ε Unit × ω} {source : ω}
    (taken : (binding.emit ⟨sourceName, AccessorNames.request, writeMethod⟩ signature
      (run start earlier).names source).1 = .ok ()) :
    ∃ body, Wrote start (earlier ++ .emit binding signature sourceName writeMethod source :: later)
      ⟨binding, sourceName, (run start earlier).names, signature, body⟩ := by
  obtain ⟨providerName, targetName, named, written⟩ := ProviderBinding.typeNames_of_emit_ok taken
  refine ⟨_, earlier, _, later, rfl, Use.mem_methods_iff.mpr ⟨rfl, ?_, _, _, rfl, written⟩⟩
  exact CreatorMethod.calls_iff.mpr ⟨providerName, targetName, named, rfl⟩

/-- The accessor that a method calls is the name of the target from then on. -/
theorem Ledger.Wrote.name?_target (h : Ledger.Wrote start uses method) :
    method.Calls (method.found.request method.binding.target).1 ∧
      (Ledger.run start uses).names.name? method.binding.target =
        some (method.found.request method.binding.target).1 := by
  obtain ⟨earlier, use, later, rfl, mem⟩ := h
  obtain ⟨found, calls, writeMethod, source, rfl, -⟩ := Ledger.Use.mem_methods_iff.mp mem
  rw [found]
  refine ⟨calls, ?_⟩
  obtain ⟨_, _, named, -⟩ := CreatorMethod.calls_iff.mp calls
  -- Later uses keep names, so it is enough to look right after the emission.
  rw [List.append_cons]
  apply Ledger.keeps_run
  rw [Ledger.run_concat, Ledger.names_apply]
  simp only [ProviderBinding.emit_of_ok named]
  exact AccessorNames.name?_request_self _ _

theorem Ledger.Wrote.name?_of_calls {accessor : Text} (h : Ledger.Wrote start uses method)
    (calls : method.Calls accessor) :
    (Ledger.run start uses).names.name? method.binding.target = some accessor := by
  obtain ⟨called, found⟩ := h.name?_target
  rw [called.unique calls]
  exact found

theorem AccessorNames.Consistent.request_provider_ne {names : AccessorNames} {accessor : Text}
    (h : names.Consistent) {binding : ProviderBinding}
    (found : names.name? binding.target = some accessor) :
    (names.request binding.provider).1 ≠ accessor := by
  rintro rfl
  have target := AccessorNames.keeps_request names binding.provider _ _ found
  have provider := AccessorNames.name?_request_self names binding.provider
  exact binding.provider_ne_target ((h.request binding.provider).key_unique provider target)

theorem CreatorMethod.Calls.emit_accept {names : AccessorNames}
    (calls : method.Calls (names.request method.binding.target).1) (source : MethodSource) :
    method.binding.emit ⟨method.sourceName, AccessorNames.request, MethodSource.accept⟩
        method.signature names source =
      (.ok (), (names.request method.binding.target).2,
        { source with
          text := source.text ++
            MethodSource.methodText source.indent method.signature method.body }) := by
  obtain ⟨providerName, targetName, named, body⟩ := calls_iff.mp calls
  rw [ProviderBinding.emit_of_ok named, body]
  rfl

end Runs

/-- Every emission of a run that goes well writes a method, and the one accessor that the method
calls is the answer to a request for the target of the binding's one dependency, at that time and
ever after, and never the name of the provider. The emission can be repeated at any later time: to a
source of the same indent it appends the same text, in which the body is that of the method, and it
leaves the names as they are. Two methods call the same accessor exactly if they have the same
target. -/
theorem Ledger.written_method_calls_target {ε ω : Type} (start : Text) (uses : List (Use ε ω)) :
    (∀ earlier binding signature sourceName writeMethod source later,
      uses = earlier ++ .emit binding signature sourceName writeMethod source :: later →
      (binding.emit ⟨sourceName, AccessorNames.request, writeMethod⟩ signature
        (run start earlier).names source).1 = .ok () →
      ∃ body, Wrote start uses
        ⟨binding, sourceName, (run start earlier).names, signature, body⟩) ∧
    (∀ method, Wrote start uses method →
      ∃ accessor dependency, (∀ other, method.Calls other ↔ other = accessor) ∧
        method.binding.dependencies = [dependency] ∧
        (method.found.request dependency.target).1 = accessor ∧
        ((run start uses).names.request dependency.target).1 = accessor ∧
        ((run start uses).names.request method.binding.provider).1 ≠ accessor ∧
        ∀ source again : MethodSource, again.indent = source.indent →
          let text := MethodSource.methodText source.indent method.signature method.body
          method.binding.emit ⟨method.sourceName, AccessorNames.request, MethodSource.accept⟩
              method.signature method.found source =
            (.ok (), (method.found.request dependency.target).2,
              { source with text := source.text ++ text }) ∧
          method.binding.emit ⟨method.sourceName, AccessorNames.request, MethodSource.accept⟩
              method.signature (run start uses).names again =
            (.ok (), (run start uses).names, { again with text := again.text ++ text })) ∧
    ∀ method other, Wrote start uses method → Wrote start uses other →
      ∀ accessor otherAccessor, method.Calls accessor → other.Calls otherAccessor →
        (accessor = otherAccessor ↔ method.binding.target = other.binding.target) := by
  have consistent := (sound_run start uses).consistent
  refine ⟨?_, ?_, ?_⟩
  · rintro earlier binding signature sourceName writeMethod source later rfl taken
    exact wrote_of_emit earlier later taken
  · intro method wrote
    obtain ⟨calls, found⟩ := wrote.name?_target
    have asked := AccessorNames.request_of_some found
    refine ⟨_, .lazyRequired method.binding.provider method.binding.target, ?_, rfl, rfl, ?_,
      consistent.request_provider_ne found, ?_⟩
    · intro other
      exact ⟨calls.unique, fun same => same ▸ calls⟩
    · rw [Dependency.lazyRequired, asked]
    · intro source again indent
      refine ⟨calls.emit_accept source, ?_⟩
      have later : method.Calls ((run start uses).names.request method.binding.target).1 := by
        rw [asked]
        exact calls
      rw [later.emit_accept, asked, indent]
  · intro method other wrote wroteOther accessor otherAccessor calls callsOther
    have found := wrote.name?_of_calls calls
    have foundOther := wroteOther.name?_of_calls callsOther
    constructor
    · rintro rfl
      exact consistent.key_unique found foundOther
    · intro same
      rw [same] at found
      exact Option.some.inj (found.symm.trans foundOther)

/-- The plain name for the class is given to an array of it first, so providers of the class call an
accessor with a number. A provider of one of them calls the accessor of that one. -/
theorem Ledger.written_method_calls_target_string :
    let start := "get_".toList
    let signature := "Object make()".toList
    let string := JavaType.classType "String".toList
    let provider (raw : String) (type : JavaType) : ProviderBinding :=
      ⟨Key.ofType (.parameterized raw.toList [type]), Key.ofType type, ⟨_, rfl⟩, rfl⟩
    let inner := provider "javax.inject.Provider" string
    let outer := provider "Provider" inner.provider.type
    let emission (binding : ProviderBinding) : Use UnnameableType MethodSource :=
      .emit binding signature JavaType.sourceName MethodSource.accept (.withIndent 1)
    let earlier := [.request (Key.ofType (.array string)), emission outer]
    let uses := earlier ++ [emission inner, emission (provider "Provider" string)]
    let body := ("return new javax.inject.Provider<String>() \x7b\n  public String get() \x7b\n" ++
      "    return get_String_2();\n  \x7d\n\x7d;").toList
    let method := ⟨inner, JavaType.sourceName, (run start earlier).names, signature, body⟩
    Wrote start uses method ∧
      (∀ accessor, method.Calls accessor ↔ accessor = "get_String_2".toList) ∧
      ((run start uses).names.request outer.target).1 =
        "get_javax_inject_Provider_String".toList ∧
      (inner.emit ⟨JavaType.sourceName, AccessorNames.request, MethodSource.accept⟩ signature
        (run start uses).names (.withIndent 1)).2.2.text =
          ("Object make() \x7b\n return new javax.inject.Provider<String>() \x7b\n" ++
            "   public String get() \x7b\n     return get_String_2();\n   \x7d\n" ++
            " \x7d;\n\x7d\n\n").toList := by
  intro start signature string provider inner outer emission earlier uses body method
  obtain ⟨writes, each, -⟩ := written_method_calls_target start uses
  obtain ⟨written, wrote⟩ := writes earlier inner signature JavaType.sourceName MethodSource.accept
    (.withIndent 1) [emission (provider "Provider" string)] rfl rfl
  obtain ⟨accessor, dependency, calls, depends, asked, -, -, again⟩ := each _ wrote
  obtain rfl := (List.cons.inj depends).1
  have name : ((run start earlier).names.request inner.target).1 = "get_String_2".toList := by
    decide +kernel
  obtain rfl : accessor = "get_String_2".toList := asked.symm.trans name
  have reads : written = body := by
    obtain ⟨providerName, targetName, namedProvider, namedTarget, text⟩ := (calls _).mpr rfl
    obtain rfl := Except.ok.inj namedProvider
    obtain rfl := Except.ok.inj namedTarget
    exact text.trans (by decide +kernel)
  subst reads
  refine ⟨wrote, calls, by decide +kernel, ?_⟩
  rw [(again (.withIndent 1) (.withIndent 1) rfl).2]
  decide +kernel

end Injector
