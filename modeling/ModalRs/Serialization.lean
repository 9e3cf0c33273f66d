/-
  File:      ModalRs/Serialization.lean
  Subject:   Class parameters as bytes.

  The numbers of the parameter types and the encoding of a message come from the
  protocol; both are parameters here.

  * `encodeParameterSet`: the parameters of a schema, sorted by name and encoded.
  * `Encodable`, `Effective`, `assigned`: what can be encoded, and what it assigns.
  * `encodeParameterSet_canonical`: the bytes tell what is assigned, and nothing else.
  * `wireSet`: the encoding on the wire, for what this schema language can say.
-/
import Mathlib.Data.Set.Image
import Mathlib.Data.String.Basic
import ModalRs.Error
import ModalRs.Lib.PrefixCode
import ModalRs.Lib.SortBy
import ModalRs.Rust.HashMap
import ModalRs.Rust.Parse
import ModalRs.Transport.Messages

namespace ModalRs

open ModalRs.Lib ModalRs.Rust

/-! ## 1. Values and their types -/

/-- Supported parameter value types. -/
inductive ParamValue where
  | string (value : String)
  | int (value : Int64)
  | bool (value : Bool)
  | bytes (value : List UInt8)
  deriving DecidableEq

/-- The types that values can have. -/
inductive ParamKind where
  | string | int | bool | bytes
  deriving DecidableEq

def ParamValue.kind : ParamValue → ParamKind
  | .string _ => .string
  | .int _ => .int
  | .bool _ => .bool
  | .bytes _ => .bytes

def ParamKind.zero : ParamKind → ParamValue
  | .string => .string ""
  | .int => .int 0
  | .bool => .bool false
  | .bytes => .bytes []

def Pb.DefaultOneof.value : Pb.DefaultOneof → Option ParamValue
  | .stringDefault s => some (.string s)
  | .intDefault i => some (.int i)
  | .boolDefault b => some (.bool b)
  | .bytesDefault b => some (.bytes b)
  | .other => none

/-- The numbers of the supported parameter types. -/
structure ParameterTypes where
  string : Int32
  int : Int32
  bool : Int32
  bytes : Int32
  distinct : [string, int, bool, bytes].Nodup

def ParameterTypes.number (types : ParameterTypes) : ParamKind → Int32
  | .string => types.string
  | .int => types.int
  | .bool => types.bool
  | .bytes => types.bytes

theorem ParameterTypes.number_injective (types : ParameterTypes) :
    Function.Injective types.number := by
  have hdistinct := types.distinct
  intro kind kind' h
  cases kind <;> cases kind' <;> simp_all [ParameterTypes.number]

/-- A parameter type with its values among all values. -/
structure ParamType (α : Type) where
  what : String
  kind : ParamKind
  make : α → ParamValue
  get : ParamValue → Option α
  zero : α
  get_eq_some : ∀ v a, get v = some a ↔ v = make a
  kind_eq : ∀ v, v.kind = kind ↔ ∃ a, v = make a
  zero_eq : kind.zero = make zero

def stringType : ParamType String where
  what := "a string"
  kind := .string
  make := .string
  get | .string s => some s | _ => none
  zero := ""
  get_eq_some v a := by cases v <;> simp
  kind_eq v := by cases v <;> simp [ParamValue.kind]
  zero_eq := rfl

def intType : ParamType Int64 where
  what := "an integer"
  kind := .int
  make := .int
  get | .int i => some i | _ => none
  zero := 0
  get_eq_some v a := by cases v <;> simp
  kind_eq v := by cases v <;> simp [ParamValue.kind]
  zero_eq := rfl

def boolType : ParamType Bool where
  what := "a boolean"
  kind := .bool
  make := .bool
  get | .bool b => some b | _ => none
  zero := false
  get_eq_some v a := by cases v <;> simp
  kind_eq v := by cases v <;> simp [ParamValue.kind]
  zero_eq := rfl

def bytesType : ParamType (List UInt8) where
  what := "a byte slice"
  kind := .bytes
  make := .bytes
  get | .bytes b => some b | _ => none
  zero := []
  get_eq_some v a := by cases v <;> simp
  kind_eq v := by cases v <;> simp [ParamValue.kind]
  zero_eq := rfl

/-! ## 2. Encoding -/

/-- A parameter of a known type: the value if it is of that type, without one the default if there
    is any (and zero if it is of another type), and otherwise an error. -/
def ParamType.value {α : Type} (t : ParamType α) (spec : Pb.ClassParameterSpec) :
    Option ParamValue → Except ModalError α
  | some v =>
      match t.get v with
      | some a => .ok a
      | none => .error (.serialization ("parameter '" ++ spec.name ++ "' must be " ++ t.what))
  | none =>
      if spec.hasDefault then
        .ok (((spec.defaultOneof.bind Pb.DefaultOneof.value).bind t.get).getD t.zero)
      else .error (.serialization ("parameter '" ++ spec.name ++ "' must be " ++ t.what))

section Encoding

variable (types : ParameterTypes) (encode : Pb.ClassParameterSet → Except String (List UInt8))

/-- The value of a parameter as it is encoded. -/
def encodeValue (spec : Pb.ClassParameterSpec) (value : Option ParamValue) :
    Except ModalError Pb.ValueOneof :=
  if spec.type = types.string then (stringType.value spec value).map .stringValue
  else if spec.type = types.int then (intType.value spec value).map .intValue
  else if spec.type = types.bool then (boolType.value spec value).map .boolValue
  else if spec.type = types.bytes then (bytesType.value spec value).map .bytesValue
  else .error (.serialization ("unsupported parameter type: " ++ toString spec.type.toInt))

def encodeParameter (spec : Pb.ClassParameterSpec) (value : Option ParamValue) :
    Except ModalError Pb.ClassParameterValue := do
  let valueOneof ← encodeValue types spec value
  pure ⟨spec.name, spec.type, some valueOneof⟩

/-- The value that is supplied for a parameter. -/
def suppliedValue (parameters : Option (HashMap String ParamValue)) (spec : Pb.ClassParameterSpec) :
    Option ParamValue := parameters.bind fun p => p.lookup spec.name

/-- Encode a parameter set into serialized proto bytes: parameters are encoded according to their
    schema specification and sorted by name. -/
def encodeParameterSet (schema : List Pb.ClassParameterSpec)
    (parameters : Option (HashMap String ParamValue)) : Except ModalError (List UInt8) := do
  let encoded ← schema.mapM fun spec => encodeParameter types spec (suppliedValue parameters spec)
  match encode ⟨sortBy (·.name) encoded⟩ with
  | .ok buf => .ok buf
  | .error e => .error (.serialization ("failed to encode parameter set: " ++ e))

end Encoding

/-! ## 3. What is assigned -/

/-- The default of this type, or its zero value when none is set. -/
def defaultValue (spec : Pb.ClassParameterSpec) (kind : ParamKind) : ParamValue :=
  match spec.defaultOneof.bind Pb.DefaultOneof.value with
  | some v => if v.kind = kind then v else kind.zero
  | none => kind.zero

/-- A parameter has a supported type, and a value of that type or a default. -/
def Encodable (types : ParameterTypes) (spec : Pb.ClassParameterSpec)
    (value : Option ParamValue) : Prop :=
  ∃ kind, spec.type = types.number kind ∧
    ((∃ v, value = some v ∧ v.kind = kind) ∨ value = none ∧ spec.hasDefault = true)

/-- The effective value of a parameter: what is supplied, or the default. -/
def Effective (types : ParameterTypes) (spec : Pb.ClassParameterSpec) (value : Option ParamValue)
    (v : ParamValue) : Prop :=
  spec.type = types.number v.kind ∧
    (value = some v ∨ value = none ∧ spec.hasDefault = true ∧ v = defaultValue spec v.kind)

/-- The names, types and effective values that a schema and a map assign. -/
def assigned (types : ParameterTypes) (schema : List Pb.ClassParameterSpec)
    (parameters : Option (HashMap String ParamValue)) : Set (String × Int32 × ParamValue) :=
  {x | ∃ spec ∈ schema, x.1 = spec.name ∧ x.2.1 = spec.type ∧
    Effective types spec (suppliedValue parameters spec) x.2.2}

/-! ## 4. One parameter -/

/-- A value as it is encoded. -/
def ParamValue.oneof : ParamValue → Pb.ValueOneof
  | .string s => .stringValue s
  | .int i => .intValue i
  | .bool b => .boolValue b
  | .bytes b => .bytesValue b

theorem oneof_injective : Function.Injective ParamValue.oneof := by
  intro v w h
  cases v <;> cases w <;> cases h <;> rfl

theorem defaultValue_kind (spec : Pb.ClassParameterSpec) (kind : ParamKind) :
    (defaultValue spec kind).kind = kind := by
  have hzero : kind.zero.kind = kind := by cases kind <;> rfl
  unfold defaultValue
  split
  · split_ifs with h
    · exact h
    · exact hzero
  · exact hzero

section Typed

variable {α : Type} (t : ParamType α) {spec : Pb.ClassParameterSpec}

theorem ParamType.make_injective : Function.Injective t.make := by
  intro a b h
  have ha : t.get (t.make a) = some a := (t.get_eq_some _ _).mpr rfl
  have hb : t.get (t.make a) = some b := (t.get_eq_some _ _).mpr h
  exact Option.some.inj (ha.symm.trans hb)

/-- The default of a type, as the code finds it. -/
theorem ParamType.make_default :
    t.make (((spec.defaultOneof.bind Pb.DefaultOneof.value).bind t.get).getD t.zero) =
      defaultValue spec t.kind := by
  unfold defaultValue
  cases spec.defaultOneof.bind Pb.DefaultOneof.value with
  | none => exact t.zero_eq.symm
  | some v =>
    simp only [Option.bind_some]
    by_cases hkind : v.kind = t.kind
    · obtain ⟨a, rfl⟩ := (t.kind_eq v).mp hkind
      rw [(t.get_eq_some _ _).mpr rfl, if_pos hkind]
      rfl
    · have hget : t.get v = none := by
        rw [Option.eq_none_iff_forall_ne_some]
        intro a ha
        exact hkind ((t.kind_eq v).mpr ⟨a, (t.get_eq_some v a).mp ha⟩)
      rw [hget, if_neg hkind]
      exact t.zero_eq.symm

/-- **A parameter of a known type** is the value of that type, or the default for want of one. -/
theorem ParamType.value_ok (value : Option ParamValue) (a : α) :
    t.value spec value = .ok a ↔
      value = some (t.make a) ∨
        value = none ∧ spec.hasDefault = true ∧ t.make a = defaultValue spec t.kind := by
  unfold ParamType.value
  cases value with
  | some v =>
    have hget := t.get_eq_some v a
    cases hof : t.get v with
    | none => simp [← hget, hof]
    | some b => simp [← hget, hof]
  | none =>
    cases hhas : spec.hasDefault with
    | false => simp
    | true => simp [← t.make_default, t.make_injective.eq_iff, eq_comm]

/-- The same of the value as it is encoded. -/
theorem ParamType.map_ok {c : α → Pb.ValueOneof} (hc : ∀ a, c a = (t.make a).oneof)
    (value : Option ParamValue) (o : Pb.ValueOneof) :
    (t.value spec value).map c = .ok o ↔
      ∃ v, v.kind = t.kind ∧
        (value = some v ∨ value = none ∧ spec.hasDefault = true ∧ v = defaultValue spec v.kind) ∧
        o = v.oneof := by
  constructor
  · intro h
    obtain ⟨a, ha, rfl⟩ := except_map_ok h
    have hkind : (t.make a).kind = t.kind := (t.kind_eq _).mpr ⟨a, rfl⟩
    refine ⟨t.make a, hkind, ?_, hc a⟩
    rw [hkind]
    exact (t.value_ok value a).mp ha
  · intro h
    obtain ⟨v, hkind, hvalue, rfl⟩ := h
    obtain ⟨a, rfl⟩ := (t.kind_eq v).mp hkind
    rw [hkind] at hvalue
    rw [(t.value_ok value a).mpr hvalue, ← hc a]
    rfl

end Typed

section Parameters

variable {types : ParameterTypes} {spec : Pb.ClassParameterSpec} {value : Option ParamValue}

/-- A parameter of a supported type, and only such a one, is encoded as its effective value. -/
theorem encodeValue_ok (o : Pb.ValueOneof) :
    encodeValue types spec value = .ok o ↔ ∃ v, Effective types spec value v ∧ o = v.oneof := by
  have harm : ∀ kind, spec.type = types.number kind →
      ((∃ v, v.kind = kind ∧ (value = some v ∨ value = none ∧ spec.hasDefault = true ∧
          v = defaultValue spec v.kind) ∧ o = v.oneof) ↔
        ∃ v, Effective types spec value v ∧ o = v.oneof) := by
    intro kind hkind
    refine exists_congr fun v => ?_
    rw [Effective, hkind, types.number_injective.eq_iff, eq_comm, and_assoc]
  unfold encodeValue
  split_ifs with hstring hint hbool hbytes
  · exact (stringType.map_ok (fun _ => rfl) value o).trans (harm .string hstring)
  · exact (intType.map_ok (fun _ => rfl) value o).trans (harm .int hint)
  · exact (boolType.map_ok (fun _ => rfl) value o).trans (harm .bool hbool)
  · exact (bytesType.map_ok (fun _ => rfl) value o).trans (harm .bytes hbytes)
  · constructor
    · exact nofun
    · intro h
      obtain ⟨v, ⟨hnumber, -⟩, -⟩ := h
      cases hkind : v.kind <;> rw [hkind] at hnumber
      · exact absurd hnumber hstring
      · exact absurd hnumber hint
      · exact absurd hnumber hbool
      · exact absurd hnumber hbytes

/-- There is an effective value exactly if the parameter can be encoded. -/
theorem exists_effective_iff : (∃ v, Effective types spec value v) ↔ Encodable types spec value := by
  constructor
  · intro h
    obtain ⟨v, hnumber, hvalue⟩ := h
    refine ⟨v.kind, hnumber, ?_⟩
    rcases hvalue with rfl | ⟨rfl, hhas, -⟩
    · exact Or.inl ⟨v, rfl, rfl⟩
    · exact Or.inr ⟨rfl, hhas⟩
  · intro h
    obtain ⟨kind, hnumber, hvalue⟩ := h
    rcases hvalue with ⟨v, rfl, rfl⟩ | ⟨rfl, hhas⟩
    · exact ⟨v, hnumber, Or.inl rfl⟩
    · have hkind := defaultValue_kind spec kind
      refine ⟨defaultValue spec kind, ?_, Or.inr ⟨rfl, hhas, ?_⟩⟩
      · rw [hkind]
        exact hnumber
      · rw [hkind]

/-- What a parameter with this effective value is encoded to. -/
def wireValue (x : String × Int32 × ParamValue) : Pb.ClassParameterValue :=
  ⟨x.1, x.2.1, some x.2.2.oneof⟩

theorem wireValue_injective : Function.Injective wireValue := by
  intro x y h
  obtain ⟨name, type, v⟩ := x
  obtain ⟨name', type', v'⟩ := y
  simp only [wireValue, Pb.ClassParameterValue.mk.injEq, Option.some.injEq] at h
  obtain ⟨rfl, rfl, hv⟩ := h
  rw [oneof_injective hv]

/-- **One parameter**: it is encoded as its effective value. -/
theorem encodeParameter_ok (w : Pb.ClassParameterValue) :
    encodeParameter types spec value = .ok w ↔
      ∃ v, Effective types spec value v ∧ w = wireValue (spec.name, spec.type, v) := by
  unfold encodeParameter
  constructor
  · intro h
    obtain ⟨o, ho, hw⟩ := except_bind_ok h
    obtain ⟨v, hv, rfl⟩ := (encodeValue_ok o).mp ho
    cases hw
    exact ⟨v, hv, rfl⟩
  · intro h
    obtain ⟨v, hv, rfl⟩ := h
    rw [(encodeValue_ok v.oneof).mpr ⟨v, hv, rfl⟩]
    rfl

end Parameters

/-! ## 5. A parameter set -/

section Sets

variable {types : ParameterTypes} {schema : List Pb.ClassParameterSpec}
  {parameters : Option (HashMap String ParamValue)} {encoded : List Pb.ClassParameterValue}

/-- What is encoded is what is assigned. -/
theorem mem_encoded_iff
    (h : (schema.mapM fun spec => encodeParameter types spec (suppliedValue parameters spec)) =
      .ok encoded) (w : Pb.ClassParameterValue) :
    w ∈ encoded ↔ w ∈ Set.image wireValue (assigned types schema parameters) := by
  have hmap := map_of_mapM_ok h
  have hmem : w ∈ encoded ↔
      ∃ spec ∈ schema, encodeParameter types spec (suppliedValue parameters spec) = .ok w := by
    have hok : Function.Injective (Except.ok : _ → Except ModalError Pb.ClassParameterValue) :=
      fun _ _ h => Except.ok.inj h
    rw [← List.mem_map_of_injective hok, ← hmap, List.mem_map]
  rw [hmem]
  constructor
  · intro hw
    obtain ⟨spec, hspec, hw⟩ := hw
    obtain ⟨v, hv, rfl⟩ := (encodeParameter_ok w).mp hw
    exact ⟨(spec.name, spec.type, v), ⟨spec, hspec, rfl, rfl, hv⟩, rfl⟩
  · intro hw
    obtain ⟨⟨name, type, v⟩, ⟨spec, hspec, rfl, rfl, hv⟩, rfl⟩ := hw
    exact ⟨spec, hspec, (encodeParameter_ok _).mpr ⟨v, hv, rfl⟩⟩

/-- The encoded parameters have the names of the schema, in its order. -/
theorem encoded_names
    (h : (schema.mapM fun spec => encodeParameter types spec (suppliedValue parameters spec)) =
      .ok encoded) : encoded.map (·.name) = schema.map (·.name) := by
  induction schema generalizing encoded with
  | nil =>
    cases h
    rfl
  | cons spec schema ih =>
    rw [List.mapM_cons] at h
    obtain ⟨w, hw, h⟩ := except_bind_ok h
    obtain ⟨ws, hws, h⟩ := except_bind_ok h
    obtain ⟨v, -, rfl⟩ := (encodeParameter_ok w).mp hw
    cases h
    rw [List.map_cons, List.map_cons, ih hws]
    rfl

end Sets

section Canonical

variable {types : ParameterTypes} {encode : Pb.ClassParameterSet → Except String (List UInt8)}

/-- A set that is encoded, taken apart. -/
theorem encodeParameterSet_ok {schema : List Pb.ClassParameterSpec}
    {parameters : Option (HashMap String ParamValue)} {buf : List UInt8}
    (h : encodeParameterSet types encode schema parameters = .ok buf) :
    ∃ encoded, (schema.mapM fun spec =>
        encodeParameter types spec (suppliedValue parameters spec)) = .ok encoded ∧
      encode ⟨sortBy (·.name) encoded⟩ = .ok buf := by
  unfold encodeParameterSet at h
  obtain ⟨encoded, hencoded, h⟩ := except_bind_ok h
  refine ⟨encoded, hencoded, ?_⟩
  cases hbuf : encode ⟨sortBy (·.name) encoded⟩ with
  | error e =>
    rw [hbuf] at h
    cases h
  | ok buf' =>
    rw [hbuf] at h
    cases h
    rfl

/-- A set is encoded exactly if all its parameters can be. -/
theorem exists_encodeParameterSet_iff (hencode : ∀ set, ∃ buf, encode set = .ok buf)
    (schema : List Pb.ClassParameterSpec) (parameters : Option (HashMap String ParamValue)) :
    (∃ buf, encodeParameterSet types encode schema parameters = .ok buf) ↔
      ∀ spec ∈ schema, Encodable types spec (suppliedValue parameters spec) := by
  have hall : (∃ encoded, (schema.mapM fun spec =>
        encodeParameter types spec (suppliedValue parameters spec)) = .ok encoded) ↔
      ∀ spec ∈ schema, Encodable types spec (suppliedValue parameters spec) := by
    rw [exists_mapM_ok_iff]
    refine forall₂_congr fun spec _ => ?_
    rw [← exists_effective_iff]
    constructor
    · intro h
      obtain ⟨w, hw⟩ := h
      obtain ⟨v, hv, -⟩ := (encodeParameter_ok w).mp hw
      exact ⟨v, hv⟩
    · intro h
      obtain ⟨v, hv⟩ := h
      exact ⟨_, (encodeParameter_ok _).mpr ⟨v, hv, rfl⟩⟩
  rw [← hall]
  constructor
  · intro h
    obtain ⟨buf, hbuf⟩ := h
    obtain ⟨encoded, hencoded, -⟩ := encodeParameterSet_ok hbuf
    exact ⟨encoded, hencoded⟩
  · intro h
    obtain ⟨encoded, hencoded⟩ := h
    obtain ⟨buf, hbuf⟩ := hencode ⟨sortBy (·.name) encoded⟩
    refine ⟨buf, ?_⟩
    unfold encodeParameterSet
    rw [hencoded]
    simp only [bind, Except.bind, hbuf]

/-- **The encoding is canonical**: it succeeds exactly for parameters that can be encoded, and two
    inputs give the same bytes exactly if they assign the same. -/
theorem encodeParameterSet_canonical (types : ParameterTypes)
    (encode : Pb.ClassParameterSet → Except String (List UInt8))
    (hencode : ∀ set, ∃ buf, encode set = .ok buf)
    (hinj : ∀ set set' buf, encode set = .ok buf → encode set' = .ok buf → set = set')
    {schema schema' : List Pb.ClassParameterSpec} (hnames : (schema.map (·.name)).Nodup)
    (hnames' : (schema'.map (·.name)).Nodup)
    (parameters parameters' : Option (HashMap String ParamValue)) :
    ((∃ buf, encodeParameterSet types encode schema parameters = .ok buf) ↔
        ∀ spec ∈ schema, Encodable types spec (suppliedValue parameters spec)) ∧
      ∀ buf buf', encodeParameterSet types encode schema parameters = .ok buf →
        encodeParameterSet types encode schema' parameters' = .ok buf' →
        (buf = buf' ↔ assigned types schema parameters = assigned types schema' parameters') := by
  refine ⟨exists_encodeParameterSet_iff hencode schema parameters, ?_⟩
  intro buf buf' h h'
  obtain ⟨encoded, hencoded, hbuf⟩ := encodeParameterSet_ok h
  obtain ⟨encoded', hencoded', hbuf'⟩ := encodeParameterSet_ok h'
  have hbytes : buf = buf' ↔ sortBy (·.name) encoded = sortBy (·.name) encoded' := by
    constructor
    · intro heq
      rw [← heq] at hbuf'
      exact Pb.ClassParameterSet.mk.inj (hinj _ _ _ hbuf hbuf')
    · intro heq
      rw [heq, hbuf'] at hbuf
      exact (Except.ok.inj hbuf).symm
  have hsorted : sortBy (·.name) encoded = sortBy (·.name) encoded' ↔
      ∀ w, w ∈ encoded ↔ w ∈ encoded' :=
    sortBy_eq_iff (encoded_names hencoded ▸ hnames) (encoded_names hencoded' ▸ hnames')
  rw [hbytes, hsorted]
  constructor
  · intro hmem
    refine wireValue_injective.image_injective (Set.ext fun w => ?_)
    rw [← mem_encoded_iff hencoded, ← mem_encoded_iff hencoded']
    exact hmem w
  · intro hassigned w
    rw [mem_encoded_iff hencoded, mem_encoded_iff hencoded', hassigned]

end Canonical

/-! ## 6. The wire -/

/-- The numbers of the types on the wire. -/
def wireTypes : ParameterTypes := ⟨1, 2, 3, 4, by decide⟩

/-- A number as 64 bits in two's complement. -/
def twosComplement (i : Int) : Nat := (i % 2 ^ 64).toNat

theorem twosComplement_inj {i j : Int} (hi : -2 ^ 63 ≤ i ∧ i < 2 ^ 63) (hj : -2 ^ 63 ≤ j ∧ j < 2 ^ 63)
    (h : twosComplement i = twosComplement j) : i = j := by
  unfold twosComplement at h
  omega

theorem int64_prefixCode : PrefixCode fun i : Int64 => varint (twosComplement i.toInt) := by
  refine varint_prefixCode.comp fun i j h => Int64.toInt_inj.mp (twosComplement_inj ?_ ?_ h)
  · exact ⟨i.le_toInt, i.toInt_lt⟩
  · exact ⟨j.le_toInt, j.toInt_lt⟩

theorem int32_prefixCode : PrefixCode fun i : Int32 => varint (twosComplement i.toInt) := by
  refine varint_prefixCode.comp fun i j h => Int32.toInt_inj.mp (twosComplement_inj ?_ ?_ h)
  · have hle := i.le_toInt
    have hlt := i.toInt_lt
    omega
  · have hle := j.le_toInt
    have hlt := j.toInt_lt
    omega

theorem asBytes_injective : Function.Injective asBytes := by
  intro s t h
  have hok : fromUtf8 (asBytes s) = fromUtf8 (asBytes t) := congrArg fromUtf8 h
  rw [fromUtf8_asBytes, fromUtf8_asBytes] at hok
  exact Except.ok.inj hok

theorem string_prefixCode : PrefixCode fun s : String => delimited (asBytes s) :=
  delimited_prefixCode.comp asBytes_injective

def wireOneof : Option Pb.ValueOneof → List UInt8
  | none => []
  | some (.stringValue s) => 0x1A :: delimited (asBytes s)
  | some (.intValue i) => 0x20 :: varint (twosComplement i.toInt)
  | some (.boolValue b) => [0x28, if b then 1 else 0]
  | some (.bytesValue b) => 0x32 :: delimited b

def wireParameter (v : Pb.ClassParameterValue) : List UInt8 :=
  optField 0x0A "" (fun s => delimited (asBytes s)) v.name ++
    (optField 0x10 0 (fun t : Int32 => varint (twosComplement t.toInt)) v.type ++
      wireOneof v.valueOneof)

/-- A parameter set on the wire. -/
def wireSet (set : Pb.ClassParameterSet) : List UInt8 :=
  set.parameters.flatMap fun v => 0x0A :: delimited (wireParameter v)

theorem wireOneof_injective : Function.Injective wireOneof := by
  intro x y h
  rcases x with _ | x
  · rcases y with _ | y
    · rfl
    · cases y <;> cases h
  · rcases y with _ | y
    · cases x <;> cases h
    · cases x with
      | stringValue s =>
        cases y with
        | stringValue s' => rw [string_prefixCode.injective (List.cons.inj h).2]
        | _ => exact absurd (List.cons.inj h).1 (by decide)
      | intValue i =>
        cases y with
        | intValue i' => rw [int64_prefixCode.injective (List.cons.inj h).2]
        | _ => exact absurd (List.cons.inj h).1 (by decide)
      | boolValue b =>
        cases y with
        | boolValue b' =>
          cases b <;> cases b' <;> first | rfl | cases h
        | _ => exact absurd (List.cons.inj h).1 (by decide)
      | bytesValue b =>
        cases y with
        | bytesValue b' => rw [delimited_prefixCode.injective (List.cons.inj h).2]
        | _ => exact absurd (List.cons.inj h).1 (by decide)

/-- The tags behind the name and behind the type are others than theirs. -/
theorem wireOneof_head (o : Option Pb.ValueOneof) :
    (wireOneof o).head? ≠ some 0x0A ∧ (wireOneof o).head? ≠ some 0x10 := by
  rcases o with _ | o
  · exact ⟨nofun, nofun⟩
  · cases o <;> constructor <;> exact fun h => absurd (Option.some.inj h) (by decide)

theorem wireType_head (t : Int32) (o : Option Pb.ValueOneof) :
    (optField 0x10 0 (fun t : Int32 => varint (twosComplement t.toInt)) t ++ wireOneof o).head? ≠
      some 0x0A := by
  unfold optField
  split_ifs
  · exact (wireOneof_head o).1
  · exact fun h => absurd (Option.some.inj h) (by decide)

theorem wireParameter_injective : Function.Injective wireParameter := by
  intro v w h
  obtain ⟨name, type, o⟩ := v
  obtain ⟨name', type', o'⟩ := w
  unfold wireParameter at h
  obtain ⟨rfl, h⟩ := optField_inj string_prefixCode (wireType_head _ _) (wireType_head _ _) h
  obtain ⟨rfl, h⟩ := optField_inj int32_prefixCode (wireOneof_head _).2 (wireOneof_head _).2 h
  exact congrArg (Pb.ClassParameterValue.mk name type) (wireOneof_injective h)

/-- **The wire tells the parameters.** -/
theorem wireSet_injective : Function.Injective wireSet := by
  intro set set' h
  have hcode : PrefixCode fun v => 0x0A :: delimited (wireParameter v) :=
    (delimited_prefixCode.comp wireParameter_injective).cons 0x0A
  have hparameters := hcode.flatMap_injective (fun _ => List.cons_ne_nil _ _) h
  exact congrArg Pb.ClassParameterSet.mk hparameters

/-- Two parameters give the same bytes in either order of the schema. -/
theorem encodeParameterSet_canonical_pair :
    let foo : Pb.ClassParameterSpec := ⟨"foo", 1, false, none⟩
    let i : Pb.ClassParameterSpec := ⟨"i", 2, false, none⟩
    let values : HashMap String ParamValue := [⟨"i", .int 5⟩, ⟨"foo", .string "bar"⟩].toFinmap
    let expected : List UInt8 := [0x0A, 0x0C, 0x0A, 0x03, 0x66, 0x6F, 0x6F, 0x10, 0x01, 0x1A, 0x03,
      0x62, 0x61, 0x72, 0x0A, 0x07, 0x0A, 0x01, 0x69, 0x10, 0x02, 0x20, 0x05]
    let encode (schema : List Pb.ClassParameterSpec) : Except ModalError (List UInt8) :=
      encodeParameterSet wireTypes (fun set => .ok (wireSet set)) schema (some values)
    encode [foo, i] = .ok expected ∧ encode [i, foo] = .ok expected := by
  intro foo i values expected encode
  have hencode : ∀ set, ∃ buf, (Except.ok (wireSet set) : Except String _) = .ok buf :=
    fun set => ⟨_, rfl⟩
  have hinj : ∀ set set' buf, (Except.ok (wireSet set) : Except String _) = .ok buf →
      (Except.ok (wireSet set') : Except String _) = .ok buf → set = set' :=
    fun set set' buf h h' => wireSet_injective (Except.ok.inj (h.trans h'.symm))
  have hnames : ([i, foo].map (·.name)).Nodup := by decide
  have hnames' : ([foo, i].map (·.name)).Nodup := by decide
  obtain ⟨hok, hequal⟩ := encodeParameterSet_canonical wireTypes
    (fun set => .ok (wireSet set)) hencode hinj hnames hnames' (some values) (some values)
  have hbytes : encode [foo, i] = .ok expected := by
    have hencoded : ([foo, i].mapM fun spec =>
        encodeParameter wireTypes spec (suppliedValue (some values) spec)) =
        .ok [wireValue ("foo", 1, .string "bar"), wireValue ("i", 2, .int 5)] := rfl
    have hsorted : sortBy (·.name) [wireValue ("foo", 1, .string "bar"), wireValue ("i", 2, .int 5)] =
        [wireValue ("foo", 1, .string "bar"), wireValue ("i", 2, .int 5)] := by
      refine sortBy_of_pairwise ?_
      simp [wireValue]
    have hfoo : asBytes "foo" = [0x66, 0x6F, 0x6F] := by decide
    have hbar : asBytes "bar" = [0x62, 0x61, 0x72] := by decide
    have hi : asBytes "i" = [0x69] := by decide
    have hwire : wireSet ⟨[wireValue ("foo", 1, .string "bar"), wireValue ("i", 2, .int 5)]⟩ =
        expected := by
      simp [wireSet, wireParameter, wireValue, optField, wireOneof, ParamValue.oneof, delimited,
        hfoo, hbar, hi, varint_of_lt, twosComplement, expected]
    change encodeParameterSet _ _ _ _ = _
    unfold encodeParameterSet
    rw [hencoded]
    simp only [bind, Except.bind, hsorted, hwire]
  have hencodable : ∀ spec ∈ [i, foo],
      Encodable wireTypes spec (suppliedValue (some values) spec) := by
    intro spec hspec
    rcases List.mem_pair.mp hspec with rfl | rfl
    · exact ⟨.int, rfl, Or.inl ⟨.int 5, rfl, rfl⟩⟩
    · exact ⟨.string, rfl, Or.inl ⟨.string "bar", rfl, rfl⟩⟩
  obtain ⟨buf, hbuf⟩ := hok.mpr hencodable
  have hassigned : assigned wireTypes [i, foo] (some values) =
      assigned wireTypes [foo, i] (some values) := by
    have hmem : ∀ spec, spec ∈ [i, foo] ↔ spec ∈ [foo, i] := fun spec =>
      (List.Perm.swap foo i []).mem_iff
    simp only [assigned, hmem]
  refine ⟨hbytes, ?_⟩
  rw [← (hequal buf expected hbuf hbytes).mpr hassigned]
  exact hbuf

end ModalRs
