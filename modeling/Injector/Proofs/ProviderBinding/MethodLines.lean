import Injector.Proofs.MethodSource
import Injector.Proofs.ProviderBinding.Blame
import Injector.Proofs.ProviderBinding.CreatorMethod
/-!
The text of a creator method, line by line. Its body is cut into lines and these are indented, and
whatever the names in it are made of, no line is lost, split or taken for a blank one, as long as
the names have no line feed in them.
-/
namespace Injector

namespace ProviderBinding

section Lines

variable {providerName targetName accessor : Text}

theorem creatorLines_visible (providerName targetName accessor : Text) :
    ∀ line ∈ creatorLines providerName targetName accessor, line.EndsVisibly := by
  simp only [creatorLines, List.forall_mem_cons]
  refine ⟨?_, ?_, ?_, ?_, ?_, List.forall_mem_nil _⟩
  · exact Text.endsVisibly_append _ rfl (by decide)
  · exact Text.endsVisibly_append _ rfl (by decide)
  · exact Text.endsVisibly_append _ rfl (by decide)
  · exact ⟨'\x7d', rfl, by decide⟩
  · exact ⟨';', rfl, by decide⟩

theorem creatorLines_plain (plainProvider : '\n' ∉ providerName) (plainTarget : '\n' ∉ targetName)
    (plainAccessor : '\n' ∉ accessor) :
    ∀ line ∈ creatorLines providerName targetName accessor, '\n' ∉ line := by
  simp only [creatorLines, List.forall_mem_cons, List.mem_append, not_or]
  exact ⟨⟨⟨by decide, plainProvider⟩, by decide⟩, ⟨⟨by decide, plainTarget⟩, by decide⟩,
    ⟨⟨by decide, plainAccessor⟩, by decide⟩, by decide, by decide, List.forall_mem_nil _⟩

theorem lines_creatorBody (plainProvider : '\n' ∉ providerName) (plainTarget : '\n' ∉ targetName)
    (plainAccessor : '\n' ∉ accessor) :
    Text.lines (creatorBody providerName targetName accessor) =
      creatorLines providerName targetName accessor := by
  rw [creatorBody_eq_intercalate]
  exact Text.lines_intercalate_of_visible
    (creatorLines_plain plainProvider plainTarget plainAccessor) (creatorLines_visible _ _ _)

end Lines

/-- An emission that goes well appends the lines of one method to the source, each ended by a line
feed: the signature, the five lines of the body, moved to the right by the indent of the source, the
closing brace and an empty line. The names in them must have no line feed, and may have any other
characters. -/
theorem emit_appends_lines {binding : ProviderBinding} {signature : Text} {names : AccessorNames}
    {source : MethodSource}
    (well : (binding.emit ⟨Pass.strictNames, AccessorNames.request, Pass.append⟩ signature names
      source).1 = .ok ()) :
    ∃ providerName targetName,
      binding.provider.type.sourceName = .ok providerName ∧
      binding.target.type.sourceName = .ok targetName ∧
      ('\n' ∉ providerName → '\n' ∉ targetName → '\n' ∉ (names.request binding.target).1 →
        binding.emit ⟨Pass.strictNames, AccessorNames.request, Pass.append⟩ signature names source =
          (.ok (), (names.request binding.target).2,
            { source with
              text := source.text ++ Text.unlines ((signature ++ " \x7b".toList) ::
                ((creatorLines providerName targetName (names.request binding.target).1).map
                  (List.replicate source.indent ' ' ++ ·) ++ ["\x7d".toList, []])) })) := by
  obtain ⟨providerName, targetName, named, -⟩ := typeNames_of_emit_ok well
  obtain ⟨provider, target⟩ := typeNames_eq_ok_iff.mp named
  refine ⟨providerName, targetName, mapError_eq_ok_iff.mp provider, mapError_eq_ok_iff.mp target,
    fun plainProvider plainTarget plainAccessor => ?_⟩
  have lines := lines_creatorBody plainProvider plainTarget plainAccessor
  have block := MethodSource.methodText_eq source.indent ⟨signature, creatorBody providerName
    targetName (names.request binding.target).1⟩
  rw [MethodSource.blockLines_of_visible lines (creatorLines_visible _ _ _)] at block
  rw [emit_of_ok named]
  simp only [Pass.append, MethodSource.write, block]
  rfl

/-- A class whose name is a carriage return and a blank has all of its name in the source, in lines
that are not taken for blank ones. -/
theorem emit_appends_lines_blank_name :
    let provider := Key.markedWith
      (.parameterized "Provider".toList [.classType "\r\u2003".toList]) "Blue".toList
    let source : MethodSource := ⟨3, "// \r".toList⟩
    ∃ binding, ofKey provider = .ok binding ∧
      let after := binding.emit ⟨Pass.strictNames, AccessorNames.request, Pass.append⟩
        "\tmake()".toList (.startingWith AccessorNames.defaultStart) source
      after.1 = .ok () ∧
        after.2.2.text = ("// \r\tmake() \x7b\n   return new Provider<\r\u2003>() \x7b\n" ++
          "     public \r\u2003 get() \x7b\n       return get_Blue();\n     \x7d\n" ++
          "   \x7d;\n\x7d\n\n").toList := by
  intro provider source
  let binding : ProviderBinding := ⟨provider, provider.withType _, ⟨_, rfl⟩, rfl⟩
  have well : (binding.emit ⟨Pass.strictNames, AccessorNames.request, Pass.append⟩
      "\tmake()".toList (.startingWith AccessorNames.defaultStart) source).1 = .ok () := rfl
  obtain ⟨providerName, targetName, namedProvider, namedTarget, appended⟩ := emit_appends_lines well
  obtain rfl := Except.ok.inj namedProvider
  obtain rfl := Except.ok.inj namedTarget
  refine ⟨binding, rfl, well, ?_⟩
  rw [appended (by decide) (by decide) (by decide)]
  decide +kernel

end ProviderBinding

end Injector
