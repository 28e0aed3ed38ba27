import TypedConfig.Proofs.Binder.Depth
import TypedConfig.Proofs.Except
import TypedConfig.Proofs.Shape.Parts

/-!
# Bound values have the shape they were bound for

Whatever the source and however a value is found in it, what a binding gives is a value of its
shape: scalars in their range, containers of values of their parts, composites with exactly their
fields.

* `Scalar.Admits`, `Conforms`: the values of a scalar and of a shape.
* `BuiltIn`: no converter stands in for the built-in rule of a type, and the fields of a composite
  have different names.
* `Scalar.admits_of_read`: what a text is read as is a value of the scalar.
* `cases_of_bindLeaf_eq_ok`: where the value of a leaf comes from.
* `exists_of_bindSequence_eq_done`, `exists_of_bindMapping_eq_done`, `exists_of_bindFields_eq_done`:
  what a bound container holds, and how its parts were bound.
* `conforms_bindLeaf`, `conforms_bindSequence`, `conforms_bindMapping`, `conforms_bindOptional`,
  `conforms_bindFields`: one lemma for each kind of shape.
* `bound_conforms`: every binding to every depth, by induction on the depth.
-/

namespace TypedConfig

/-! ### The values of a shape -/

/-- The values of a scalar. -/
def Scalar.Admits : Scalar → Value → Prop
  | signed bits, .number (.integer number) =>
    -(Nat.pow 2 (bits - 1) : Int) ≤ number ∧ number < (Nat.pow 2 (bits - 1) : Int)
  | unsigned bits, .number (.integer number) => 0 ≤ number ∧ number < (Nat.pow 2 bits : Int)
  | float _, .number (.binary number) => number.isFinite
  | boolean, .boolean _ => True
  | string, .string _ => True
  | _, _ => False

/-- The values of the shapes of a family. An object lists its members by name, each name once. -/
inductive Conforms (family : Family) : Shape → Value → Prop
  | scalar {shape : Shape} {type : Text} {kind : Scalar} {value : Value}
      (resolved : shape.resolve family = .scalar type kind) (admitted : kind.Admits value) :
      Conforms family shape value
  | sequence {shape element : Shape} {type : Text} {items : List Value}
      (resolved : shape.resolve family = .sequence type element)
      (each : ∀ item ∈ items, Conforms family element item) :
      Conforms family shape (.array items)
  | mapping {shape inner : Shape} {type : Text} {members : Table Value}
      (resolved : shape.resolve family = .mapping type inner) (sorted : members.Sorted)
      (each : ∀ member ∈ members, Conforms family inner member.2) :
      Conforms family shape (.object members)
  | absent {shape inner : Shape} {type : Text}
      (resolved : shape.resolve family = .optional type inner) : Conforms family shape .null
  | present {shape inner : Shape} {type : Text} {value : Value}
      (resolved : shape.resolve family = .optional type inner)
      (here : Conforms family inner value) : Conforms family shape value
  | composite {shape : Shape} {type : Text} {fields : List (Field Shape)} {members : Table Value}
      (resolved : shape.resolve family = .composite type fields) (sorted : members.Sorted)
      (complete : ∀ name, name ∈ members.names ↔ name ∈ fields.map Field.name)
      (each : ∀ field ∈ fields, ∀ value, members.get? field.name = some value →
        Conforms family field.shape value) :
      Conforms family shape (.object members)

/-- No type that binding a shape may come to has a converter, and no two fields of a composite share
a name. -/
structure BuiltIn (registry : Registry) (family : Family) (root : Shape) : Prop where
  unconverted : ∀ shape, family.Reaches root shape →
    registry.converters.get? (shape.resolve family).typeName = none
  distinct : ∀ shape, family.Reaches root shape → ∀ type fields,
    shape.resolve family = .composite type fields → (fields.map Field.name).Nodup

variable {registry : Registry} {family : Family} {shape : Shape}

theorem BuiltIn.inside {part : Shape} (builtIn : BuiltIn registry family shape)
    (reached : family.Reaches shape part) : BuiltIn registry family part where
  unconverted inner further := builtIn.unconverted inner (reached.trans further)
  distinct inner further := builtIn.distinct inner (reached.trans further)

/-- The names of the fields of a composite. -/
def Shape.fieldNames : Shape → List Text
  | composite _ fields => fields.map Field.name
  | _ => []

/-- Only the shapes in the scope of a family need to be looked at. -/
theorem BuiltIn.of_scope
    (unconverted : ∀ part ∈ family.scope shape,
      (registry.converters.get? (part.resolve family).typeName).isNone)
    (distinct : ∀ part ∈ family.scope shape, (part.resolve family).fieldNames.Nodup) :
    BuiltIn registry family shape where
  unconverted part reached := Option.isNone_iff_eq_none.1 (unconverted part reached.mem_scope)
  distinct part reached type fields resolved := by
    have names := distinct part reached.mem_scope
    rwa [resolved] at names

/-! ### Scalars -/

theorem IntegerLiteral.fits_of_readSigned {bits : Nat} {text : Text} {number : Int}
    (read : readSigned bits text = .ok number) : fitsSigned bits number := by
  unfold readSigned at read
  split at read
  next => cases read
  next =>
    split at read
    next fits =>
      cases read
      exact fits
    next => cases read

theorem IntegerLiteral.fits_of_readUnsigned {bits number : Nat} {text : Text}
    (read : readUnsigned bits text = .ok number) : fitsUnsigned bits number := by
  unfold readUnsigned at read
  split at read
  next => cases read
  next =>
    split at read
    next => cases read
    next =>
      split at read
      next fits =>
        cases read
        exact fits
      next => cases read

theorem Scalar.isFinite_of_readFloat {bits : Nat} {text : Text} {number : Binary64}
    (read : readFloat bits text = .ok number) : number.isFinite := by
  unfold readFloat at read
  split at read
  next => cases read
  next =>
    dsimp only at read
    split at read
    next finite =>
      cases read
      exact finite
    next => cases read

/-- **What a text is read as is a value of the scalar**, whatever its width. -/
theorem Scalar.admits_of_read {kind : Scalar} {text : Text} {value : Value}
    (read : kind.read text = .ok value) : kind.Admits value := by
  cases kind with
  | signed bits =>
    obtain ⟨number, parsed, rfl⟩ := exists_of_map_eq_ok read
    have fits := IntegerLiteral.fits_of_readSigned parsed
    rwa [IntegerLiteral.fitsSigned, Bool.and_eq_true, decide_eq_true_eq, decide_eq_true_eq] at fits
  | unsigned bits =>
    obtain ⟨_, widened, rfl⟩ := exists_of_map_eq_ok read
    obtain ⟨number, parsed, same⟩ := exists_of_bind_eq_ok widened
    cases same
    have fits := IntegerLiteral.fits_of_readUnsigned parsed
    exact ⟨Int.natCast_nonneg number, Int.ofNat_lt.2 (of_decide_eq_true fits)⟩
  | float bits =>
    obtain ⟨number, parsed, rfl⟩ := exists_of_map_eq_ok read
    exact isFinite_of_readFloat parsed
  | boolean =>
    obtain ⟨flag, -, rfl⟩ := exists_of_map_eq_ok read
    trivial
  | string =>
    cases read
    trivial

namespace Binder

variable {binder : Binder} {source : Source} {target : Target} {value : Value}

/-! ### Rules -/

/-- Rules accept a value or refuse it; they do not change it. -/
theorem eq_of_validated {bound : Value} (accepted : binder.validated target value = .ok bound) :
    bound = value := by
  obtain ⟨_, -, same⟩ := exists_of_map_eq_ok accepted
  exact same.symm

theorem eq_of_finished {bound : Value} (accepted : binder.finished target value = .ok bound) :
    bound = value := by
  unfold finished at accepted
  split at accepted
  next => exact eq_of_validated accepted
  next =>
    cases accepted
    rfl

/-! ### What bound containers hold -/

variable {bind : BindPart} {embed : Source → List (Field Shape) → Target → Outcome Value}
  {entry : Shape}

/-- A sequence is a list of the values that its elements have. -/
theorem exists_of_bindSequence_eq_done
    (bound : binder.bindSequence bind family source entry target = .done value) :
    ∃ items, value = .array items ∧ ∀ item index, items[index]? = some item →
      ∃ view, binder.elementSource source (entry.resolve family) target = .ok (some view)
        ∧ view.has (Key.element target.key index)
        ∧ bind view entry (binder.elementTarget target (target.element index)) = .done item := by
  unfold bindSequence at bound
  obtain ⟨found, sought, later⟩ := Outcome.exists_of_bind_eq_done bound
  have sought := Outcome.eq_ok_of_ofExcept sought
  cases found with
  | none =>
    obtain rfl := eq_of_finished (Outcome.eq_ok_of_ofExcept later)
    exact ⟨[], rfl, fun item index listed => by cases listed⟩
  | some view =>
    obtain ⟨items, each, finished⟩ := Outcome.exists_of_bind_eq_done later
    obtain rfl := eq_of_finished (Outcome.eq_ok_of_ofExcept finished)
    refine ⟨items, rfl, fun item index listed => ⟨view, sought, ?_⟩⟩
    obtain ⟨count, indices, present, -⟩ := exists_indices_eq view target.key
    rw [indices] at each
    obtain ⟨other, same, here⟩ := Outcome.exists_getElem?_of_mapM_eq_done each listed
    obtain ⟨within, rfl⟩ := List.getElem?_eq_some_iff.1 same
    rw [List.getElem_range] at here
    exact ⟨present index (by simpa using within), here⟩

/-- A mapping is an object of the values that its members have. -/
theorem exists_of_bindMapping_eq_done
    (bound : binder.bindMapping bind source entry target = .done value) :
    ∃ members : Table Value, value = .object members ∧ members.Sorted
      ∧ ∀ name content, (name, content) ∈ members → source.has (Key.child target.key name)
        ∧ bind source entry (binder.elementTarget target (target.child name))
          = .done content := by
  unfold bindMapping at bound
  obtain ⟨names, listed, later⟩ := Outcome.exists_of_bind_eq_done bound
  obtain ⟨members, each, finished⟩ := Outcome.exists_of_bind_eq_done later
  obtain rfl := eq_of_finished (Outcome.eq_ok_of_ofExcept finished)
  refine ⟨Table.ofList members, rfl, Table.sorted_ofList members, fun name content mem => ?_⟩
  obtain ⟨other, found, step⟩ :=
    Outcome.exists_part_of_mapM_eq_done each _ (Table.mem_of_mem_ofList mem)
  obtain ⟨result, here, same⟩ := Outcome.exists_of_bind_eq_done step
  cases same
  have names := members?_of_memberNames (Outcome.eq_ok_of_ofExcept listed)
  exact ⟨Source.has_child_of_members? names found, here⟩

/-- A composite is an object with the names of its fields, each with the value of its last field. -/
theorem exists_of_bindFields_eq_done {fields : List (Field Shape)}
    (bound : bindFields bind embed family source fields target = .done value) :
    ∃ members : Table Value, value = .object members ∧ members.Sorted
      ∧ (∀ name, name ∈ members.names ↔ name ∈ fields.map Field.name)
      ∧ ∀ front field back, fields = front ++ field :: back → field.name ∉ back.map Field.name →
        ∃ content, members.get? field.name = some content
          ∧ bindField bind embed family source target field = .done content := by
  unfold bindFields at bound
  split at bound
  next => cases bound
  next =>
    obtain ⟨members, each, same⟩ := Outcome.exists_of_bind_eq_done bound
    cases same
    refine ⟨Table.ofList members, rfl, Table.sorted_ofList members, fun name => ?_, ?_⟩
    · rw [Table.mem_names_ofList, Outcome.labels_of_mapM_eq_done each]
    rintro front field back rfl last
    rw [List.mapM_append, List.mapM_cons] at each
    obtain ⟨before, -, later⟩ := Outcome.exists_of_bind_eq_done each
    obtain ⟨both, behind, same⟩ := Outcome.exists_of_bind_eq_done later
    obtain ⟨entry, step, rest⟩ := Outcome.exists_of_bind_eq_done behind
    obtain ⟨after, others, joined⟩ := Outcome.exists_of_bind_eq_done rest
    obtain ⟨content, here, named⟩ := Outcome.exists_of_bind_eq_done step
    cases named
    cases joined
    cases same
    refine ⟨content, Table.get?_ofList_of_last ?_, here⟩
    rwa [Outcome.labels_of_mapM_eq_done others]

/-! ### Kinds of shapes -/

/-- What a leaf is bound to was given by a registered converter, or read as a scalar. -/
theorem cases_of_bindLeaf_eq_ok (bound : binder.bindLeaf source shape target = .ok value) :
    (∃ convert text, binder.registry.converters.get? shape.typeName = some convert
        ∧ convert text = .ok value)
      ∨ binder.registry.converters.get? shape.typeName = none
        ∧ ∃ type kind text, shape = .scalar type kind ∧ kind.read text = .ok value := by
  unfold bindLeaf conversion? at bound
  split at bound
  next => cases bound
  next text _ =>
    cases registered : binder.registry.converters.get? shape.typeName with
    | some convert =>
      simp only [registered] at bound
      split at bound
      next => cases bound
      next converted =>
        obtain rfl := eq_of_validated bound
        exact .inl ⟨convert, text, rfl, converted⟩
    | none =>
      cases shape with
      | scalar type kind =>
        simp only [registered] at bound
        cases read : kind.read text with
        | error error =>
          rw [read] at bound
          cases bound
        | ok result =>
          rw [read] at bound
          obtain rfl := eq_of_validated bound
          exact .inr ⟨rfl, type, kind, text, rfl, read⟩
      | custom | sequence | mapping | optional | composite | named =>
        simp only [registered] at bound
        cases bound

theorem conforms_bindLeaf
    (unconverted : binder.registry.converters.get? (shape.resolve family).typeName = none)
    (bound : binder.bindLeaf source (shape.resolve family) target = .ok value) :
    Conforms family shape value := by
  rcases cases_of_bindLeaf_eq_ok bound with
    ⟨_, _, registered, -⟩ | ⟨-, type, kind, text, resolved, read⟩
  · cases registered.symm.trans unconverted
  · exact .scalar resolved (Scalar.admits_of_read read)

/-- What binding parts gives are values of their shapes. -/
def ConformsInside (registry : Registry) (family : Family) (bind : BindPart) : Prop :=
  ∀ source shape target value, BuiltIn registry family shape →
    bind source shape target = .done value → Conforms family shape value

theorem conforms_bindSequence {type : Text} {element : Shape}
    (parts : ConformsInside binder.registry family bind)
    (builtIn : BuiltIn binder.registry family shape)
    (resolved : shape.resolve family = .sequence type element)
    (bound : binder.bindSequence bind family source element target = .done value) :
    Conforms family shape value := by
  have inside := builtIn.inside (Family.Reaches.root.sequence resolved)
  obtain ⟨items, rfl, each⟩ := exists_of_bindSequence_eq_done bound
  refine .sequence resolved fun item mem => ?_
  obtain ⟨index, listed⟩ := List.mem_iff_getElem?.1 mem
  obtain ⟨view, -, -, here⟩ := each item index listed
  exact parts _ _ _ _ inside here

theorem conforms_bindMapping {type : Text} {member : Shape}
    (parts : ConformsInside binder.registry family bind)
    (builtIn : BuiltIn binder.registry family shape)
    (resolved : shape.resolve family = .mapping type member)
    (bound : binder.bindMapping bind source member target = .done value) :
    Conforms family shape value := by
  have inside := builtIn.inside (Family.Reaches.root.mapping resolved)
  obtain ⟨members, rfl, sorted, each⟩ := exists_of_bindMapping_eq_done bound
  exact .mapping resolved sorted fun entry mem =>
    parts _ _ _ _ inside (each entry.1 entry.2 mem).2

theorem conforms_bindOptional {type : Text} {inner : Shape}
    (parts : ConformsInside binder.registry family bind)
    (builtIn : BuiltIn binder.registry family shape)
    (resolved : shape.resolve family = .optional type inner)
    (bound : bindOptional bind source inner target = .done value) :
    Conforms family shape value := by
  have inside := builtIn.inside (Family.Reaches.root.optional resolved)
  unfold bindOptional at bound
  split at bound
  next error _ =>
    split at bound
    next =>
      cases bound
      exact .absent resolved
    next => cases bound
  next => exact .present resolved (parts _ _ _ _ inside bound)

/-! ### Composites -/

/-- What binding the fields of a composite gives are values of the composite. -/
def ConformsEmbedded (registry : Registry) (family : Family)
    (embed : Source → List (Field Shape) → Target → Outcome Value) : Prop :=
  ∀ source shape type fields target value, BuiltIn registry family shape →
    shape.resolve family = .composite type fields → embed source fields target = .done value →
    Conforms family shape value

variable {type : Text} {fields : List (Field Shape)}

/-- A field has a value of its shape, whether its place is named by a tag, is that of the composite
or is the member of its name. -/
theorem conforms_bindField {field : Field Shape}
    (parts : ConformsInside binder.registry family bind)
    (embedded : ConformsEmbedded binder.registry family embed)
    (builtIn : BuiltIn binder.registry family field.shape)
    (bound : bindField bind embed family source target field = .done value) :
    Conforms family field.shape value := by
  unfold bindField at bound
  cases binding : field.binding with
  | tagged tag =>
    rw [binding] at bound
    dsimp only at bound
    split at bound
    next child _ => exact parts _ _ _ _ builtIn bound
    next => cases bound
  | embedded =>
    rw [binding] at bound
    dsimp only at bound
    split at bound
    next inner innerFields resolved => exact embedded _ _ _ _ _ _ builtIn resolved bound
    next => cases bound
  | nested =>
    rw [binding] at bound
    exact parts _ _ _ _ builtIn bound

theorem conforms_bindFields (parts : ConformsInside binder.registry family bind)
    (embedded : ConformsEmbedded binder.registry family embed)
    (builtIn : BuiltIn binder.registry family shape)
    (resolved : shape.resolve family = .composite type fields)
    (bound : bindFields bind embed family source fields target = .done value) :
    Conforms family shape value := by
  obtain ⟨members, rfl, sorted, complete, each⟩ := exists_of_bindFields_eq_done bound
  refine .composite resolved sorted complete fun field mem content found => ?_
  obtain ⟨front, back, rfl⟩ := List.append_of_mem mem
  -- no field behind this one has its name, since no two fields share a name
  have distinct := builtIn.distinct shape .root type _ resolved
  rw [List.map_append, List.map_cons, List.nodup_middle] at distinct
  have last : field.name ∉ back.map Field.name := fun later =>
    (List.nodup_cons.1 distinct).1 (List.mem_append_right _ later)
  obtain ⟨other, listed, here⟩ := each front field back rfl last
  cases found.symm.trans listed
  have inside := builtIn.inside (Family.Reaches.root.field resolved mem)
  exact conforms_bindField parts embedded inside here

/-! ### Every depth -/

/-- To every depth, shapes and embedded fields together. -/
theorem conforms_bindAt (binder : Binder) (family : Family) (depth : Nat) :
    ConformsInside binder.registry family (binder.bindAt family depth)
      ∧ ConformsEmbedded binder.registry family (binder.bindCompositeAt family depth) := by
  induction depth with
  | zero =>
    constructor
    · intro source shape target value _ bound
      cases bound
    · intro source shape type fields target value _ _ bound
      cases bound
  | succ depth ih =>
    obtain ⟨parts, embedded⟩ := ih
    constructor
    · intro source shape target value builtIn bound
      have unconverted := builtIn.unconverted shape .root
      rw [bindAt] at bound
      cases resolved : shape.resolve family with
      | mapping type member =>
        rw [resolved] at bound
        exact conforms_bindMapping parts builtIn resolved bound
      | sequence type element =>
        rw [resolved] at bound
        exact conforms_bindSequence parts builtIn resolved bound
      | optional type inner =>
        rw [resolved] at bound
        exact conforms_bindOptional parts builtIn resolved bound
      | composite type fields =>
        rw [resolved] at bound unconverted
        dsimp only at bound
        rw [show binder.registry.converters.get? type = none from unconverted,
          Option.isSome_none, if_neg Bool.false_ne_true] at bound
        exact embedded _ _ _ _ _ _ builtIn resolved bound
      | scalar | custom | named =>
        rw [resolved] at bound
        dsimp only at bound
        rw [← resolved] at bound
        exact conforms_bindLeaf unconverted (Outcome.eq_ok_of_ofExcept bound)
    · intro source shape type fields target value builtIn resolved bound
      rw [bindCompositeAt] at bound
      exact conforms_bindFields parts embedded builtIn resolved bound

/-- **A bound value has the shape it was bound for**, to whatever depth and wherever its parts were
found: in stored texts, in the parts of a divided text, in a fallback or in an embedded field. -/
theorem bound_conforms (binder : Binder) (family : Family) (source : Source) (shape : Shape)
    (target : Target) (builtIn : BuiltIn binder.registry family shape) :
    (∀ depth value, binder.bindAt family depth source shape target = .done value →
        Conforms family shape value)
      ∧ ∀ value, binder.bind family source shape target = .ok value →
        Conforms family shape value := by
  have every : ∀ depth value, binder.bindAt family depth source shape target = .done value →
      Conforms family shape value := fun depth value bound =>
    (conforms_bindAt binder family depth).1 source shape target value builtIn bound
  refine ⟨every, fun value bound => ?_⟩
  obtain ⟨depth, settled⟩ := bind_settles (ends_of_bind_eq_ok bound)
  rw [bound] at settled
  exact every depth value (settled depth (Nat.le_refl depth))

/-- A family with a server, a part of which is embedded, and which may have servers below it. -/
def serverFamily : Family :=
  [("Server", .composite "Server" [
    ⟨"title", .tagged "$\x7blabel:=none\x7d", .scalar "String" .string, []⟩,
    ⟨"limits", .embedded,
      .composite "Limits" [⟨"level", .nested, .scalar "i8" (.signed 8), []⟩], []⟩,
    ⟨"ports", .nested, .sequence "Vec" (.scalar "u8" (.unsigned 8)), []⟩,
    ⟨"owner", .nested, .optional "Option" (.scalar "String" .string), []⟩,
    ⟨"peers", .nested, .mapping "Map" (.named "Server"), []⟩])]

/-- The properties of a server with a list of ports in one text, and of another below it. -/
def serverStore : Store :=
  .ofTable [("level", "-128"), ("peers.east.label", "east"), ("peers.east.level", "7"),
    ("peers.east.owner", "ops"), ("peers.east.ports[0]", "1"), ("ports", " 80, 0xff")]

/-- The value of a server. -/
def serverValue (level : Int) (owner : Value) (peers : Table Value) (ports : List Int)
    (title : Text) : Value :=
  .object [("limits", .object [("level", .ofInt level)]), ("owner", owner),
    ("peers", .object peers), ("ports", .array (ports.map .ofInt)), ("title", .string title)]

theorem bound_conforms_server :
    BuiltIn Binder.standard.registry serverFamily (.named "Server")
      ∧ Binder.standard.bindAt serverFamily 8 serverStore (.named "Server") (.new [] "Server")
        = .done (serverValue (-128) .null
            [("east", serverValue 7 (.string "ops") [] [1] "east")] [80, 255] "none")
      ∧ Conforms serverFamily (.named "Server") (serverValue (-128) .null
          [("east", serverValue 7 (.string "ops") [] [1] "east")] [80, 255] "none") := by
  have builtIn : BuiltIn Binder.standard.registry serverFamily (.named "Server") :=
    .of_scope (by decide) (by decide)
  have bound : Binder.standard.bindAt serverFamily 8 serverStore (.named "Server")
      (.new [] "Server") = .done (serverValue (-128) .null
        [("east", serverValue 7 (.string "ops") [] [1] "east")] [80, 255] "none") := by
    with_unfolding_all rfl
  have facts := bound_conforms Binder.standard serverFamily serverStore (.named "Server")
    (.new [] "Server") builtIn
  exact ⟨builtIn, bound, facts.1 8 _ bound⟩

end Binder

end TypedConfig
