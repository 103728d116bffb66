import Injector.Key
import Injector.Proofs.Text.Utf8
/-!
The orders of types, annotations, keys and dependencies are total and transitive, and they tell all
values apart: a comparison is equal exactly on equal values.
-/
namespace Injector

section Equality

mutual

theorem JavaType.order_eq_iff (a b : JavaType) : a.order b = .eq ↔ a = b := by
  cases a <;> cases b <;>
    simp [JavaType.order, JavaType.kind, JavaType.order_eq_iff, Bound.order_eq_iff,
      JavaType.orderAll_eq_iff]

theorem Bound.order_eq_iff (a b : Bound) : a.order b = .eq ↔ a = b := by
  cases a <;> cases b <;> simp [Bound.order, Bound.kind, JavaType.order_eq_iff]

theorem JavaType.orderAll_eq_iff (as bs : List JavaType) :
    JavaType.orderAll as bs = .eq ↔ as = bs := by
  cases as <;> cases bs <;>
    simp [JavaType.orderAll, JavaType.order_eq_iff, JavaType.orderAll_eq_iff]

end

/-- A comparison that is equal exactly on equal values is lawful. -/
theorem lawfulEqCmp_of_iff {α : Type} {order : α → α → Ordering}
    (h : ∀ a b, order a b = .eq ↔ a = b) : Std.LawfulEqCmp order where
  compare_self := (h _ _).mpr rfl
  eq_of_compare := (h _ _).mp

instance : Std.LawfulEqOrd JavaType := lawfulEqCmp_of_iff JavaType.order_eq_iff

instance : Std.LawfulEqOrd Bound := lawfulEqCmp_of_iff Bound.order_eq_iff

theorem ElementValues.orderEntries_eq_iff (a b : Text × Text) :
    orderEntries a b = .eq ↔ a = b := by
  rw [orderEntries, Ordering.then_eq_eq, Std.LawfulEqOrd.compare_eq_iff_eq,
    Std.LawfulEqOrd.compare_eq_iff_eq, Prod.ext_iff]

theorem ElementValues.compare_eq_iff (a b : ElementValues) : compare a b = .eq ↔ a = b := by
  have := lawfulEqCmp_of_iff orderEntries_eq_iff
  have entries : List.compareLex orderEntries a.entries b.entries = .eq ↔ a.entries = b.entries :=
    Std.LawfulEqCmp.compare_eq_iff_eq
  refine entries.trans ?_
  cases a
  cases b
  rw [ElementValues.mk.injEq]

instance : Std.LawfulEqOrd ElementValues := lawfulEqCmp_of_iff ElementValues.compare_eq_iff

theorem AnnotationUse.compare_def (a b : AnnotationUse) :
    compare a b = (compare a.annotationType b.annotationType).then (compare a.values b.values) :=
  rfl

theorem AnnotationUse.compare_eq_iff (a b : AnnotationUse) : compare a b = .eq ↔ a = b := by
  rw [compare_def, Ordering.then_eq_eq, Std.LawfulEqOrd.compare_eq_iff_eq,
    Std.LawfulEqOrd.compare_eq_iff_eq]
  cases a
  cases b
  rw [AnnotationUse.mk.injEq]

instance : Std.LawfulEqOrd AnnotationUse := lawfulEqCmp_of_iff AnnotationUse.compare_eq_iff

theorem Qualifier.order_eq_iff (a b : Qualifier) : a.order b = .eq ↔ a = b := by
  cases a <;> cases b <;> simp [Qualifier.order, Qualifier.kind]

instance : Std.LawfulEqOrd Qualifier := lawfulEqCmp_of_iff Qualifier.order_eq_iff

theorem Key.compare_def (a b : Key) :
    compare a b = (compare a.type b.type).then (compare a.qualifier b.qualifier) :=
  rfl

theorem Key.compare_eq_iff (a b : Key) : compare a b = .eq ↔ a = b := by
  rw [compare_def, Ordering.then_eq_eq, Std.LawfulEqOrd.compare_eq_iff_eq,
    Std.LawfulEqOrd.compare_eq_iff_eq]
  cases a
  cases b
  rw [Key.mk.injEq]

instance : Std.LawfulEqOrd Key := lawfulEqCmp_of_iff Key.compare_eq_iff

theorem Dependency.compare_def (a b : Dependency) :
    compare a b = ((compare a.source b.source).then <| (compare a.target b.target).then <|
      (compare a.optional b.optional).then (compare a.lazy b.lazy)) :=
  rfl

theorem Dependency.compare_eq_iff (a b : Dependency) : compare a b = .eq ↔ a = b := by
  simp only [compare_def, Ordering.then_eq_eq, Std.LawfulEqOrd.compare_eq_iff_eq]
  cases a
  cases b
  rw [Dependency.mk.injEq]

instance : Std.LawfulEqOrd Dependency := lawfulEqCmp_of_iff Dependency.compare_eq_iff

end Equality

/-! Codes of types. A code is a list of numbers that tells where each part of a type ends, so that
types are ordered as their codes are. Orders are transitive because the order of lists of numbers
is. -/

section Codes

/-- The characters of a text, and a mark that comes before all characters where it ends. -/
def Text.code (text : Text) : List Nat :=
  text.map (·.toNat + 1) ++ [0]

mutual

def JavaType.code : JavaType → List Nat
  | .classType name => 0 :: Text.code name
  | .primitive name => 1 :: Text.code name
  | .parameterized raw arguments => 2 :: Text.code raw ++ JavaType.codeAll arguments
  | .array component => 3 :: component.code
  | .wildcard bound => 4 :: bound.code
  | .typeVariable name => 5 :: Text.code name
  | .localClass name anonymous => 6 :: Text.code name ++ [anonymous.toNat]

def Bound.code : Bound → List Nat
  | .unbounded => [0]
  | .subtypesOf type => 1 :: type.code
  | .supertypesOf type => 2 :: type.code

/-- The codes of types, each announced, and a mark where they end. -/
def JavaType.codeAll : List JavaType → List Nat
  | [] => [0]
  | type :: rest => 1 :: type.code ++ JavaType.codeAll rest

end

theorem Text.compare_toNat_succ (c d : Char) :
    compare (c.toNat + 1) (d.toNat + 1) = compare c d := by
  rcases lt_trichotomy c d with less | rfl | greater
  · rw [compare_lt_iff_lt.mpr less, Nat.compare_eq_lt]
    exact Nat.succ_lt_succ less
  · rw [Std.ReflOrd.compare_self, Std.ReflOrd.compare_self]
  · rw [compare_gt_iff_gt.mpr greater, Nat.compare_eq_gt]
    exact Nat.succ_lt_succ greater

theorem Text.compare_code_append (a b : Text) (after later : List Nat) :
    compare (Text.code a ++ after) (Text.code b ++ later) =
      (compare a b).then (compare after later) := by
  induction a generalizing b with
  | nil =>
      cases b with
      | nil => exact compare_append_left [0] after later
      | cons d b => rfl
  | cons c a ih =>
      cases b with
      | nil => rfl
      | cons d b =>
          have step : compare (Text.code (c :: a) ++ after) (Text.code (d :: b) ++ later) =
              (compare (c.toNat + 1) (d.toNat + 1)).then
                (compare (Text.code a ++ after) (Text.code b ++ later)) :=
            Text.compare_cons_cons _ _ _ _
          rw [step, Text.compare_toNat_succ, ih, Text.compare_cons_cons, Ordering.then_assoc]

theorem compare_same_cons (k : Nat) (as bs : List Nat) :
    compare (k :: as) (k :: bs) = compare as bs :=
  Text.compare_append_left [k] as bs

-- The recursion is that of the order: on two types at once.
mutual

theorem JavaType.compare_code_append (a b : JavaType) (after later : List Nat) :
    compare (a.code ++ after) (b.code ++ later) = (a.order b).then (compare after later) := by
  cases a <;> cases b
  case classType.classType a b => exact Text.compare_code_append a b after later
  case primitive.primitive a b => exact Text.compare_code_append a b after later
  case typeVariable.typeVariable a b => exact Text.compare_code_append a b after later
  case parameterized.parameterized a as b bs =>
    simp only [JavaType.code, JavaType.order, List.cons_append, List.append_assoc, compare_same_cons]
    rw [Text.compare_code_append, JavaType.compare_codeAll_append, Ordering.then_assoc]
  case array.array a b =>
    simp only [JavaType.code, JavaType.order, List.cons_append, compare_same_cons]
    exact JavaType.compare_code_append a b after later
  case wildcard.wildcard a b =>
    simp only [JavaType.code, JavaType.order, List.cons_append, compare_same_cons]
    exact Bound.compare_code_append a b after later
  case localClass.localClass a x b y =>
    simp only [JavaType.code, JavaType.order, List.cons_append, List.append_assoc, compare_same_cons]
    rw [Text.compare_code_append, Ordering.then_assoc]
    cases x <;> cases y <;> rfl
  -- Codes of two kinds differ in their first number.
  all_goals rfl

theorem Bound.compare_code_append (a b : Bound) (after later : List Nat) :
    compare (a.code ++ after) (b.code ++ later) = (a.order b).then (compare after later) := by
  cases a <;> cases b
  case subtypesOf.subtypesOf a b =>
    simp only [Bound.code, Bound.order, List.cons_append, compare_same_cons]
    exact JavaType.compare_code_append a b after later
  case supertypesOf.supertypesOf a b =>
    simp only [Bound.code, Bound.order, List.cons_append, compare_same_cons]
    exact JavaType.compare_code_append a b after later
  all_goals rfl

theorem JavaType.compare_codeAll_append (as bs : List JavaType) (after later : List Nat) :
    compare (JavaType.codeAll as ++ after) (JavaType.codeAll bs ++ later) =
      (JavaType.orderAll as bs).then (compare after later) := by
  cases as <;> cases bs
  case cons.cons a as b bs =>
    simp only [JavaType.codeAll, JavaType.orderAll, List.cons_append, List.append_assoc,
      compare_same_cons]
    rw [JavaType.compare_code_append, JavaType.compare_codeAll_append, Ordering.then_assoc]
  all_goals rfl

end

/-- What is compared before whatever follows is compared alone, too. -/
theorem eq_compare_of_append {as bs : List Nat} {order : Ordering}
    (h : ∀ after later, compare (as ++ after) (bs ++ later) = order.then (compare after later)) :
    order = compare as bs := by
  have alone := h [] []
  rw [List.append_nil, List.append_nil, Std.ReflOrd.compare_self, Ordering.then_eq] at alone
  exact alone.symm

theorem JavaType.compare_code (a b : JavaType) : a.order b = compare a.code b.code :=
  eq_compare_of_append (JavaType.compare_code_append a b)

theorem Bound.compare_code (a b : Bound) : a.order b = compare a.code b.code :=
  eq_compare_of_append (Bound.compare_code_append a b)

end Codes

section Instances

/-- An order is total and transitive if it compares something about the values by such an order. -/
theorem transCmp_of_map {α β : Type} {order : α → α → Ordering} {other : β → β → Ordering}
    [Std.TransCmp other] (f : α → β) (h : ∀ a b, order a b = other (f a) (f b)) :
    Std.TransCmp order where
  eq_swap := by
    intro a b
    rw [h, h]
    exact Std.OrientedCmp.eq_swap
  isLE_trans := by
    intro a b c first second
    rw [h] at first second ⊢
    exact Std.TransCmp.isLE_trans first second

instance : Std.TransOrd JavaType := transCmp_of_map JavaType.code JavaType.compare_code

instance : Std.TransOrd Bound := transCmp_of_map Bound.code Bound.compare_code

instance : Std.TransCmp ElementValues.orderEntries :=
  inferInstanceAs (Std.TransCmp (compareLex (compareOn Prod.fst) (compareOn Prod.snd)))

instance : Std.TransOrd ElementValues := transCmp_of_map ElementValues.entries fun _ _ => rfl

instance : Std.TransOrd AnnotationUse :=
  inferInstanceAs (Std.TransCmp
    (compareLex (compareOn AnnotationUse.annotationType) (compareOn AnnotationUse.values)))

/-- The kind of a qualifier, then what it holds. -/
def Qualifier.parts : Qualifier → Nat × List AnnotationUse × List Text
  | .unqualified => (0, [], [])
  | .annotated use => (1, [use], [])
  | .marked annotationType => (2, [], [annotationType])

theorem Qualifier.order_eq_parts (a b : Qualifier) :
    a.order b = compareLex (compareOn Prod.fst)
      (compareLex (compareOn fun parts => parts.2.1) (compareOn fun parts => parts.2.2))
      a.parts b.parts := by
  cases a <;> cases b
  case annotated.annotated a b =>
    simp only [order, parts, compareLex, compareOn, Std.ReflOrd.compare_self, Ordering.eq_then,
      Ordering.then_eq, Text.compare_singleton]
  case marked.marked a b =>
    simp only [order, parts, compareLex, compareOn, Std.ReflOrd.compare_self, Ordering.eq_then,
      Text.compare_singleton]
  all_goals rfl

instance : Std.TransOrd Qualifier := transCmp_of_map Qualifier.parts Qualifier.order_eq_parts

instance : Std.TransOrd Key :=
  inferInstanceAs (Std.TransCmp (compareLex (compareOn Key.type) (compareOn Key.qualifier)))

instance : Std.TransOrd Dependency :=
  inferInstanceAs (Std.TransCmp
    (compareLex (compareOn Dependency.source) <| compareLex (compareOn Dependency.target) <|
      compareLex (compareOn Dependency.optional) (compareOn Dependency.lazy)))

end Instances

end Injector
