/-
**The property sets obey their tables.**

For every set: the sum that `len` computes is the number of bytes its entries take; storing the
entries one after the other from an empty set gives the set back (`Replays`); and its checks report no
missing bytes. With the laws of the loop this makes a block read back as it was written
(`writes_optional`), with two exceptions that the statements carry as conditions:

* a CONNECT or CONNACK with a receive maximum of zero is written and then refused;
* a PUBLISH is read back only if the loop reaches all of its properties, and each subscription
  identifier moves the cursor one too far (`PublishProperties.Recoverable`).
-/

import Mathlib.Data.List.ReduceOption
import Rumqtt.V5.Codec.PropertyLaws

namespace Rumqtt.V5

open Mqttbytes Handler List Reader

/-! ### Tools -/

theorem sum_optional (type : PropertyType) (value : Option type.kind.Carrier) :
    ((optional type value).map Property.len).sum =
      optionalLen (fun value => 1 + type.kind.width value) value := by
  cases value with
  | none => rfl
  | some value => exact Nat.add_zero _

theorem sum_repeated (type : PropertyType) (values : List type.kind.Carrier) :
    ((repeated type values).map Property.len).sum =
      repeatedLen (fun value => 1 + type.kind.width value) values := by
  unfold repeated repeatedLen
  rw [map_map]
  rfl

theorem mem_optional {type : PropertyType} {value : type.kind.Carrier} :
    (⟨type, value⟩ : Property) ∈ optional type (some value) := mem_singleton.mpr rfl

/-- The check does not report missing bytes. -/
def Plain {α : Type} (result : Except Error α) : Prop := ∀ n, result ≠ .error (.insufficientBytes n)

section Plain

variable {α : Type}

theorem Plain.error {result : Except Error α} (plain : Plain result) {error : Error}
    (refused : result = .error error) : ∀ n, error ≠ .insufficientBytes n :=
  fun n same => plain n (same ▸ refused)

@[simp] theorem plain_ok (value : α) : Plain (.ok value) := fun _ => nofun

@[simp] theorem plain_error {error : Error} :
    Plain (.error error : Except Error α) ↔ ∀ n, error ≠ .insufficientBytes n := by
  simp [Plain]

@[simp] theorem plain_ite {condition : Prop} [Decidable condition] {left right : Except Error α} :
    Plain (if condition then left else right) ↔
      (condition → Plain left) ∧ (¬ condition → Plain right) := by
  split <;> simp [*]

@[simp] theorem plain_unexpected (type : PropertyType) :
    Plain (unexpected type : Except Error α) := by
  simp [unexpected]

@[simp] theorem plain_once {error : Error} (other : ∀ n, error ≠ .insufficientBytes n)
    (value : Option α) : Plain (once error value) := by
  cases value with
  | none => exact plain_ok ()
  | some _ => exact plain_error.mpr other

@[simp] theorem plain_flag (value : UInt8) (next : UInt8 → α) :
    Plain (next <$> flag value) := by
  unfold flag
  split
  · exact plain_error.mpr fun _ => Error.noConfusion
  · exact plain_ok _

end Plain

theorem PropertyTable.Plain.of {P : Type} {table : PropertyTable P}
    (expects : ∀ p type, V5.Plain (table.expects p type))
    (store : ∀ p type value, V5.Plain (table.store p type value)) : table.Plain :=
  ⟨fun p type _ refused => (expects p type).error refused,
    fun p type value _ refused => (store p type value).error refused⟩

/-- A property that is written has passed its guard. -/
theorem PropertyTable.guarded_of_mem {P : Type} {table : PropertyTable P} {p : P}
    (guarded : ∀ prop ∈ table.entries p, table.guard prop = .ok ()) (type : PropertyType)
    {field : Option type.kind.Carrier} (part : ∀ prop ∈ optional type field, prop ∈ table.entries p)
    {value : type.kind.Carrier} (same : field = some value) : table.guard ⟨type, value⟩ = .ok () :=
  guarded _ (part _ (same ▸ mem_optional))

theorem flag_ok {value : UInt8} (small : ¬ 1 < value) : flag value = .ok value := if_neg small

theorem flag_stored {α : Type} {value : UInt8} (small : ¬ 1 < value) (next : UInt8 → α) :
    (do return next (← flag value) : Except Error α) = .ok (next value) := by
  rw [flag_ok small]
  rfl

theorem flag_guarded {value : UInt8}
    (guarded : (do let _ ← flag value : Except Error Unit) = .ok ()) : ¬ 1 < value := by
  intro big
  rw [show flag value = .error .protocolError from if_pos big] at guarded
  cases guarded

/-- Storing the properties one after the other leads from one set to another. -/
def Replays {P : Type} (table : PropertyTable P) (p : P) (props : List Property) (q : P) : Prop :=
  table.replay p props = .ok q

namespace Replays

variable {P : Type} {table : PropertyTable P}

theorem start (table : PropertyTable P) : Replays table table.empty [] table.empty := rfl

theorem append {p q r : P} {props others : List Property} (first : Replays table p props q)
    (second : Replays table q others r) : Replays table p (props ++ others) r :=
  PropertyTable.replay_append first second

/-- An optional property goes to its place in a set that has it vacant. -/
theorem optionalIf {p q : P} {props : List Property} (done : Replays table p props q)
    (type : PropertyType) (value : Option type.kind.Carrier)
    (put : P → Option type.kind.Carrier → P)
    (stores : ∀ given, value = some given → table.expects q type = .ok () ∧
      table.store q type given = .ok (put q (some given)))
    (vacant : put q none = q) :
    Replays table p (props ++ V5.optional type value) (put q value) := by
  refine done.append ?_
  cases value with
  | none =>
    rw [vacant]
    rfl
  | some given =>
    obtain ⟨expected, stored⟩ := stores given rfl
    exact PropertyTable.replay_cons expected stored rfl

/-- The same where nothing is checked. -/
theorem optional {p q : P} {props : List Property} (done : Replays table p props q)
    (type : PropertyType) (value : Option type.kind.Carrier)
    (put : P → Option type.kind.Carrier → P) (vacant : put q none = q)
    (fits : ∀ given, (table.expects q type, table.store q type given) =
      (.ok (), .ok (put q (some given)))) :
    Replays table p (props ++ V5.optional type value) (put q value) :=
  done.optionalIf type value put (fun given _ => Prod.mk.inj (fits given)) vacant

/-- A repeated property is pushed value by value. -/
theorem repeated {p q : P} {props : List Property} (done : Replays table p props q)
    (type : PropertyType) (values : List type.kind.Carrier) (put : P → List type.kind.Carrier → P)
    (vacant : put q [] = q)
    (fits : ∀ pushed value, (table.expects (put q pushed) type, table.store (put q pushed) type value) =
      (.ok (), .ok (put q (pushed ++ [value])))) :
    Replays table p (props ++ V5.repeated type values) (put q values) := by
  have pushing : ∀ (values pushed : List type.kind.Carrier),
      Replays table (put q pushed) (V5.repeated type values) (put q (pushed ++ values)) := by
    intro values
    induction values with
    | nil =>
      intro pushed
      rw [append_nil]
      rfl
    | cons value values ih =>
      intro pushed
      obtain ⟨expected, stored⟩ := Prod.mk.inj (fits pushed value)
      have rest := ih (pushed ++ [value])
      rw [append_assoc] at rest
      exact PropertyTable.replay_cons expected stored rest
  have all := pushing values []
  rw [vacant] at all
  exact done.append all

end Replays

namespace PropertyTable

variable {P : Type} {table : PropertyTable P}

theorem eq_empty {p : P} (replayed : Replays table table.empty (table.entries p) p)
    (none_ : ((table.entries p).map Property.len).sum = 0) : p = table.empty := by
  cases entries : table.entries p with
  | nil =>
    rw [entries] at replayed
    exact (Except.ok.inj replayed).symm
  | cons prop props =>
    rw [entries, map_cons, sum_cons] at none_
    have := prop.len_pos
    omega

/-- What a written block says: it has the computed length and is read back, unless it is a set
without any property. -/
abbrev ReadBack (len : P → Nat) (empty : P) (read : FrameReader (Option P)) (properties : Option P)
    (_ : Unit) (bytes : Bytes) : Prop :=
  bytes.length = blockLen len properties ∧ (properties ≠ some empty → Reads read bytes properties)

/-- **An optional block of an exact table.** What is written has the computed length. It is read back
unless it is a set without any property, or one whose entries cannot be stored. -/
theorem writes_optional (table : PropertyTable P) (fine : P → Prop)
    (exact_ : ∀ type, table.extra type = 0) {len : P → Nat} {write : P → FrameWriter Unit}
    (len_eq : ∀ p, len p = ((table.entries p).map Property.len).sum)
    (writes : ∀ p, Writes (write p) fun _ bytes => table.BlockWritten (len p) p bytes ∧
      (fine p → Replays table table.empty (table.entries p) p) ∧
      (¬ fine p → Refuses table.read bytes))
    (properties : Option P) :
    Writes (writeBlock write properties) fun _ bytes =>
      bytes.length = blockLen len properties ∧
        (properties ≠ some table.empty → (∀ p ∈ properties, fine p) →
          Reads table.read bytes properties) ∧
        ((∃ p ∈ properties, ¬ fine p) → Refuses table.read bytes) := by
  cases properties with
  | none =>
    refine (writes_remainingLength 0).bind ?_
    rintro _ field ⟨_, size, isLength⟩
    refine Writes.pure ?_
    rw [append_nil]
    refine ⟨size, fun _ _ => reads_absent isLength, ?_⟩
    rintro ⟨p, impossible, _⟩
    cases impossible
  | some p =>
    refine (writes p).mono ?_
    rintro _ bytes ⟨written, replays, refuses⟩
    refine ⟨written.length (len_eq p), fun nonempty fine => ?_, ?_⟩
    · have replayed := replays (fine p rfl)
      have some_ : len p ≠ 0 := by
        intro zero
        exact nonempty (congrArg some (eq_empty replayed (by rw [← len_eq p, zero])))
      exact reads_exact_block exact_ written some_ (len_eq p) replayed
    · rintro ⟨q, same, bad⟩
      cases same
      exact refuses bad

/-- The same for a set whose entries can always be stored. -/
theorem writes_always (exact_ : ∀ type, table.extra type = 0) {len : P → Nat}
    (len_eq : ∀ p, len p = ((table.entries p).map Property.len).sum)
    (replays : ∀ p, (∀ prop ∈ table.entries p, table.guard prop = .ok ()) →
      Replays table table.empty (table.entries p) p)
    (properties : Option P) :
    Writes (writeBlock (fun p => table.write (len p) p) properties)
      (ReadBack len table.empty table.read properties) := by
  refine (table.writes_optional (fun _ => True) exact_ len_eq (fun p => ?_) properties).mono ?_
  · refine (table.writes_block (len p) p).mono fun _ _ written => ⟨written, fun _ => ?_, fun bad => ?_⟩
    · exact replays p written.guarded
    · exact absurd trivial bad
  · rintro _ bytes ⟨size, reads, _⟩
    exact ⟨size, fun nonempty => reads nonempty fun _ _ => trivial⟩

end PropertyTable

open PropertyTable

/-! ### The acknowledgements -/

namespace AckProperties

theorem len_eq (p : AckProperties) : p.len = ((entries p).map Property.len).sum := by
  unfold len entries
  simp only [map_append, sum_append, sum_optional, sum_repeated, userPropertiesLen,
    Kind.width, ← Nat.add_assoc]

theorem replays (p : AckProperties) : Replays table {} (entries p) p :=
  Replays.start table
    |>.optional .reasonString p.reasonString (fun q value => { q with reasonString := value })
      rfl (fun _ => rfl)
    |>.repeated .userProperty p.userProperties (fun q pairs => { q with userProperties := pairs })
      rfl (fun _ _ => rfl)

theorem replays_once (p : AckProperties) : Replays subTable {} (entries p) p :=
  Replays.start subTable
    |>.optional .reasonString p.reasonString (fun q value => { q with reasonString := value })
      rfl (fun _ => rfl)
    |>.repeated .userProperty p.userProperties (fun q pairs => { q with userProperties := pairs })
      rfl (fun _ _ => rfl)

theorem plain : table.Plain :=
  .of (fun _ type => by cases type <;> simp [table, expects])
    fun _ type _ => by cases type <;> simp [table, store]

theorem plain_once : subTable.Plain :=
  .of (fun _ type => by cases type <;> simp [subTable, expectsOnce])
    fun _ type _ => by cases type <;> simp [subTable, store]

theorem writes_optional (properties : Option AckProperties) :
    Writes (writeBlock write properties) (ReadBack len {} table.read properties) :=
  writes_always (fun _ => rfl) len_eq (fun p _ => replays p) properties

theorem writes_optional_once (properties : Option AckProperties) :
    Writes (writeBlock write properties) (ReadBack len {} subTable.read properties) :=
  writes_always (fun _ => rfl) len_eq (fun p _ => replays_once p) properties

end AckProperties

/-! ### SUBSCRIBE and UNSUBSCRIBE -/

namespace SubscribeProperties

theorem len_eq (p : SubscribeProperties) : p.len = ((entries p).map Property.len).sum := by
  unfold len entries
  simp only [map_append, sum_append, sum_optional, sum_repeated, userPropertiesLen,
    Kind.width, ← Nat.add_assoc]

theorem guard_ok {id : Nat} (guarded : guard ⟨.subscriptionIdentifier, id⟩ = .ok ()) : id ≠ 0 := by
  intro zero
  have : guard ⟨.subscriptionIdentifier, id⟩ = .error .protocolError := if_pos zero
  rw [this] at guarded
  cases guarded

theorem replays {p : SubscribeProperties}
    (guarded : ∀ prop ∈ table.entries p, table.guard prop = .ok ()) :
    Replays table table.empty (entries p) p := by
  have positive : ∀ id, p.id = some id → id ≠ 0 := fun _ same =>
    guard_ok (guarded_of_mem guarded .subscriptionIdentifier
      (by simp +contextual [table, entries]) same)
  exact Replays.start table
    |>.optionalIf .subscriptionIdentifier p.id (fun q value => { q with id := value })
      (fun id same => ⟨rfl, if_neg (positive id same)⟩) rfl
    |>.repeated .userProperty p.userProperties (fun q pairs => { q with userProperties := pairs })
      rfl (fun _ _ => rfl)

theorem plain : table.Plain :=
  .of (fun _ type => by cases type <;> simp [table, expects])
    fun _ type _ => by cases type <;> simp [table, store]

theorem writes_optional (properties : Option SubscribeProperties) :
    Writes (writeBlock write properties) (ReadBack len ⟨none, []⟩ read properties) :=
  writes_always (fun _ => rfl) len_eq (fun _ guarded => replays guarded) properties

end SubscribeProperties

namespace UnsubscribeProperties

theorem len_eq (p : UnsubscribeProperties) : p.len = ((entries p).map Property.len).sum := by
  unfold len entries
  simp only [sum_repeated, userPropertiesLen, Kind.width, ← Nat.add_assoc]

theorem replays (p : UnsubscribeProperties) : Replays table table.empty (entries p) p :=
  Replays.start table
    |>.repeated .userProperty p.userProperties (fun q pairs => { q with userProperties := pairs })
      rfl (fun _ _ => rfl)

theorem plain : table.Plain :=
  .of (fun _ type => by cases type <;> simp [table, expects])
    fun _ type _ => by cases type <;> simp [table, store]

theorem writes_optional (properties : Option UnsubscribeProperties) :
    Writes (writeBlock write properties) (ReadBack len ⟨[]⟩ read properties) :=
  writes_always (fun _ => rfl) len_eq (fun p _ => replays p) properties

end UnsubscribeProperties

/-! ### CONNECT and its will -/

namespace ConnectProperties

theorem len_eq (p : ConnectProperties) : p.len = ((entries p).map Property.len).sum := by
  unfold len entries
  simp only [map_append, sum_append, sum_optional, sum_repeated, userPropertiesLen,
    Kind.width, ← Nat.add_assoc]

theorem replays {p : ConnectProperties}
    (guarded : ∀ prop ∈ table.entries p, table.guard prop = .ok ())
    (positive : p.receiveMaximum ≠ some 0) : Replays table {} (entries p) p := by
  have response : ∀ value, p.requestResponseInfo = some value → ¬ 1 < value := fun _ same =>
    flag_guarded (guarded_of_mem guarded .requestResponseInformation
      (by simp +contextual [table, entries]) same)
  have problem : ∀ value, p.requestProblemInfo = some value → ¬ 1 < value := fun _ same =>
    flag_guarded (guarded_of_mem guarded .requestProblemInformation
      (by simp +contextual [table, entries]) same)
  exact Replays.start table
    |>.optional .sessionExpiryInterval p.sessionExpiryInterval
      (fun q value => { q with sessionExpiryInterval := value }) rfl (fun _ => rfl)
    |>.optionalIf .receiveMaximum p.receiveMaximum (fun q value => { q with receiveMaximum := value })
      (fun value same => ⟨rfl, if_neg fun zero => positive (by rw [same, zero])⟩) rfl
    |>.optional .maximumPacketSize p.maxPacketSize (fun q value => { q with maxPacketSize := value })
      rfl (fun _ => rfl)
    |>.optional .topicAliasMaximum p.topicAliasMax (fun q value => { q with topicAliasMax := value })
      rfl (fun _ => rfl)
    |>.optionalIf .requestResponseInformation p.requestResponseInfo
      (fun q value => { q with requestResponseInfo := value })
      (fun value same => ⟨rfl, flag_stored (response value same) _⟩) rfl
    |>.optionalIf .requestProblemInformation p.requestProblemInfo
      (fun q value => { q with requestProblemInfo := value })
      (fun value same => ⟨rfl, flag_stored (problem value same) _⟩) rfl
    |>.repeated .userProperty p.userProperties (fun q pairs => { q with userProperties := pairs })
      rfl (fun _ _ => rfl)
    |>.optional .authenticationMethod p.authenticationMethod
      (fun q value => { q with authenticationMethod := value }) rfl (fun _ => rfl)
    |>.optional .authenticationData p.authenticationData
      (fun q value => { q with authenticationData := value }) rfl (fun _ => rfl)

theorem plain : table.Plain :=
  .of (fun _ type => by cases type <;> simp [table, expects])
    fun _ type _ => by cases type <;> simp [table, store]

/-- **A receive maximum of zero** is written, and then refused. -/
theorem refuses {p : ConnectProperties} {bytes : Bytes}
    (written : table.BlockWritten p.len p bytes) (zero : p.receiveMaximum = some 0) :
    Refuses read bytes := by
  obtain ⟨others, split⟩ : ∃ others, entries p =
      optional .sessionExpiryInterval p.sessionExpiryInterval ++ ⟨.receiveMaximum, (0 : UInt16)⟩ ::
        others := by
    unfold entries
    rw [zero]
    simp only [append_assoc]
    exact ⟨_, rfl⟩
  exact refuses_block (fun _ => rfl) written (len_eq p) split
    (Replays.start table |>.optional .sessionExpiryInterval p.sessionExpiryInterval
      (fun q value => { q with sessionExpiryInterval := value }) rfl (fun _ => rfl)) rfl rfl

theorem writes_optional (properties : Option ConnectProperties) :
    Writes (writeBlock write properties) fun _ bytes =>
      bytes.length = blockLen len properties ∧
        (properties ≠ some {} → (∀ p ∈ properties, p.receiveMaximum ≠ some 0) →
          Reads read bytes properties) ∧
        ((∃ p ∈ properties, ¬ p.receiveMaximum ≠ some 0) → Refuses read bytes) := by
  refine table.writes_optional (fun p => p.receiveMaximum ≠ some 0) (fun _ => rfl) len_eq (fun p => ?_)
    properties
  refine (table.writes_block p.len p).mono fun _ _ written => ⟨written, ?_, fun zero => ?_⟩
  · exact replays written.guarded
  · exact refuses written (not_not.mp zero)

end ConnectProperties

namespace LastWillProperties

theorem len_eq (p : LastWillProperties) : p.len = ((entries p).map Property.len).sum := by
  unfold len entries
  simp only [map_append, sum_append, sum_optional, sum_repeated, userPropertiesLen,
    Kind.width, ← Nat.add_assoc]

theorem replays (p : LastWillProperties) : Replays table {} (entries p) p :=
  Replays.start table
    |>.optional .willDelayInterval p.delayInterval (fun q value => { q with delayInterval := value })
      rfl (fun _ => rfl)
    |>.optional .payloadFormatIndicator p.payloadFormatIndicator
      (fun q value => { q with payloadFormatIndicator := value }) rfl (fun _ => rfl)
    |>.optional .messageExpiryInterval p.messageExpiryInterval
      (fun q value => { q with messageExpiryInterval := value }) rfl (fun _ => rfl)
    |>.optional .contentType p.contentType (fun q value => { q with contentType := value })
      rfl (fun _ => rfl)
    |>.optional .responseTopic p.responseTopic (fun q value => { q with responseTopic := value })
      rfl (fun _ => rfl)
    |>.optional .correlationData p.correlationData
      (fun q value => { q with correlationData := value }) rfl (fun _ => rfl)
    |>.repeated .userProperty p.userProperties (fun q pairs => { q with userProperties := pairs })
      rfl (fun _ _ => rfl)

theorem plain : table.Plain :=
  .of (fun _ type => by cases type <;> simp [table, expects])
    fun _ type _ => by cases type <;> simp [table, store]

theorem writes_optional (properties : Option LastWillProperties) :
    Writes (writeBlock write properties) (ReadBack len {} read properties) :=
  writes_always (fun _ => rfl) len_eq (fun p _ => replays p) properties

end LastWillProperties

/-! ### CONNACK -/

namespace ConnAckProperties

theorem len_eq (p : ConnAckProperties) : p.len = ((entries p).map Property.len).sum := by
  unfold len entries
  simp only [map_append, sum_append, sum_optional, sum_repeated, userPropertiesLen,
    Kind.width, ← Nat.add_assoc]

theorem mem_flags {p : ConnAckProperties} {value : UInt8} :
    value ∈ p.flags ↔ p.maxQos = some value ∨ p.retainAvailable = some value ∨
      p.wildcardSubscriptionAvailable = some value ∨
      p.subscriptionIdentifiersAvailable = some value ∨
      p.sharedSubscriptionAvailable = some value := by
  unfold flags
  rw [reduceOption_mem_iff]
  simp only [mem_cons, not_mem_nil, or_false, eq_comm (a := some value)]

theorem replays {p : ConnAckProperties} (checked : ¬ ∃ value ∈ p.flags, 1 < value)
    (positive : p.receiveMax ≠ some 0) : Replays table {} (entries p) p := by
  have fine : ∀ value ∈ p.flags, ¬ 1 < value := fun value member big => checked ⟨value, member, big⟩
  simp only [mem_flags] at fine
  exact Replays.start table
    |>.optional .sessionExpiryInterval p.sessionExpiryInterval
      (fun q value => { q with sessionExpiryInterval := value }) rfl (fun _ => rfl)
    |>.optionalIf .receiveMaximum p.receiveMax (fun q value => { q with receiveMax := value })
      (fun value same => ⟨rfl, if_neg fun zero => positive (by rw [same, zero])⟩) rfl
    |>.optionalIf .maximumQos p.maxQos (fun q value => { q with maxQos := value })
      (fun value same => ⟨rfl, flag_stored (fine value (by simp [same])) _⟩) rfl
    |>.optionalIf .retainAvailable p.retainAvailable (fun q value => { q with retainAvailable := value })
      (fun value same => ⟨rfl, flag_stored (fine value (by simp [same])) _⟩) rfl
    |>.optional .maximumPacketSize p.maxPacketSize (fun q value => { q with maxPacketSize := value })
      rfl (fun _ => rfl)
    |>.optional .assignedClientIdentifier p.assignedClientIdentifier
      (fun q value => { q with assignedClientIdentifier := value }) rfl (fun _ => rfl)
    |>.optional .topicAliasMaximum p.topicAliasMax (fun q value => { q with topicAliasMax := value })
      rfl (fun _ => rfl)
    |>.optional .reasonString p.reasonString (fun q value => { q with reasonString := value })
      rfl (fun _ => rfl)
    |>.repeated .userProperty p.userProperties (fun q pairs => { q with userProperties := pairs })
      rfl (fun _ _ => rfl)
    |>.optionalIf .wildcardSubscriptionAvailable p.wildcardSubscriptionAvailable
      (fun q value => { q with wildcardSubscriptionAvailable := value })
      (fun value same => ⟨rfl, flag_stored (fine value (by simp [same])) _⟩) rfl
    |>.optionalIf .subscriptionIdentifierAvailable p.subscriptionIdentifiersAvailable
      (fun q value => { q with subscriptionIdentifiersAvailable := value })
      (fun value same => ⟨rfl, flag_stored (fine value (by simp [same])) _⟩) rfl
    |>.optionalIf .sharedSubscriptionAvailable p.sharedSubscriptionAvailable
      (fun q value => { q with sharedSubscriptionAvailable := value })
      (fun value same => ⟨rfl, flag_stored (fine value (by simp [same])) _⟩) rfl
    |>.optional .serverKeepAlive p.serverKeepAlive (fun q value => { q with serverKeepAlive := value })
      rfl (fun _ => rfl)
    |>.optional .responseInformation p.responseInformation
      (fun q value => { q with responseInformation := value }) rfl (fun _ => rfl)
    |>.optional .serverReference p.serverReference (fun q value => { q with serverReference := value })
      rfl (fun _ => rfl)
    |>.optional .authenticationMethod p.authenticationMethod
      (fun q value => { q with authenticationMethod := value }) rfl (fun _ => rfl)
    |>.optional .authenticationData p.authenticationData
      (fun q value => { q with authenticationData := value }) rfl (fun _ => rfl)

theorem plain : table.Plain :=
  .of (fun _ type => by cases type <;> simp [table, expects])
    fun _ type _ => by cases type <;> simp [table, store]

theorem refuses {p : ConnAckProperties} {bytes : Bytes}
    (written : table.BlockWritten p.len p bytes) (zero : p.receiveMax = some 0) :
    Refuses read bytes := by
  obtain ⟨others, split⟩ : ∃ others, entries p =
      optional .sessionExpiryInterval p.sessionExpiryInterval ++ ⟨.receiveMaximum, (0 : UInt16)⟩ ::
        others := by
    unfold entries
    rw [zero]
    simp only [append_assoc]
    exact ⟨_, rfl⟩
  exact refuses_block (fun _ => rfl) written (len_eq p) split
    (Replays.start table |>.optional .sessionExpiryInterval p.sessionExpiryInterval
      (fun q value => { q with sessionExpiryInterval := value }) rfl (fun _ => rfl)) rfl rfl

theorem writes_optional (properties : Option ConnAckProperties) :
    Writes (writeBlock write properties) fun _ bytes =>
      bytes.length = blockLen len properties ∧
        (properties ≠ some {} → (∀ p ∈ properties, p.receiveMax ≠ some 0) →
          Reads read bytes properties) ∧
        ((∃ p ∈ properties, ¬ p.receiveMax ≠ some 0) → Refuses read bytes) := by
  refine table.writes_optional (fun p => p.receiveMax ≠ some 0) (fun _ => rfl) len_eq (fun p => ?_)
    properties
  refine Writes.transactional ((Writes.failIf _ _).bind ?_)
  rintro _ _ ⟨rfl, checked⟩
  refine (table.writes_inner p.len p).mono fun _ _ written => ⟨written, ?_, fun zero => ?_⟩
  · exact replays checked
  · exact refuses written (not_not.mp zero)

end ConnAckProperties

/-! ### DISCONNECT -/

namespace DisconnectProperties

theorem len_eq (p : DisconnectProperties) : p.len = ((entries p).map Property.len).sum := by
  unfold len entries
  simp only [map_append, sum_append, sum_optional, sum_repeated, userPropertiesLen,
    Kind.width, ← Nat.add_assoc]

theorem replays (p : DisconnectProperties) : Replays table {} (entries p) p :=
  Replays.start table
    |>.optional .sessionExpiryInterval p.sessionExpiryInterval
      (fun q value => { q with sessionExpiryInterval := value }) rfl (fun _ => rfl)
    |>.optional .reasonString p.reasonString (fun q value => { q with reasonString := value })
      rfl (fun _ => rfl)
    |>.repeated .userProperty p.userProperties (fun q pairs => { q with userProperties := pairs })
      rfl (fun _ _ => rfl)
    |>.optional .serverReference p.serverReference (fun q value => { q with serverReference := value })
      rfl (fun _ => rfl)

theorem plain : table.Plain :=
  .of (fun _ type => by cases type <;> simp [table, expects])
    fun _ type _ => by cases type <;> simp [table, store]

theorem writes_optional (properties : Option DisconnectProperties) :
    Writes (writeBlock write properties) (ReadBack len {} extract properties) :=
  writes_always (fun _ => rfl) len_eq (fun p _ => replays p) properties

end DisconnectProperties

/-! ### PUBLISH -/

namespace PublishProperties

theorem len_eq (p : PublishProperties) : p.len = ((entries p).map Property.len).sum := by
  unfold len entries
  simp only [map_append, sum_append, sum_optional, sum_repeated, userPropertiesLen,
    Kind.width, ← Nat.add_assoc]

theorem guard_ok {aliasId : UInt16} (guarded : guard ⟨.topicAlias, aliasId⟩ = .ok ()) :
    aliasId ≠ 0 := by
  intro zero
  have : guard ⟨.topicAlias, aliasId⟩ = .error (.protocolViolation .topicAliasInvalid) := if_pos zero
  rw [this] at guarded
  cases guarded

theorem replays {p : PublishProperties}
    (guarded : ∀ prop ∈ table.entries p, table.guard prop = .ok ()) :
    Replays table {} (entries p) p := by
  have positive : ∀ aliasId, p.topicAlias = some aliasId → aliasId ≠ 0 := fun _ same =>
    guard_ok (guarded_of_mem guarded .topicAlias
      (by simp +contextual [table, entries]) same)
  exact Replays.start table
    |>.optional .payloadFormatIndicator p.payloadFormatIndicator
      (fun q value => { q with payloadFormatIndicator := value }) rfl (fun _ => rfl)
    |>.optional .messageExpiryInterval p.messageExpiryInterval
      (fun q value => { q with messageExpiryInterval := value }) rfl (fun _ => rfl)
    |>.optionalIf .topicAlias p.topicAlias (fun q value => { q with topicAlias := value })
      (fun aliasId same => ⟨rfl, if_neg (positive aliasId same)⟩) rfl
    |>.optional .responseTopic p.responseTopic (fun q value => { q with responseTopic := value })
      rfl (fun _ => rfl)
    |>.optional .correlationData p.correlationData
      (fun q value => { q with correlationData := value }) rfl (fun _ => rfl)
    |>.repeated .userProperty p.userProperties (fun q pairs => { q with userProperties := pairs })
      rfl (fun _ _ => rfl)
    |>.repeated .subscriptionIdentifier p.subscriptionIdentifiers
      (fun q ids => { q with subscriptionIdentifiers := ids }) rfl (fun _ _ => rfl)
    |>.optional .contentType p.contentType (fun q value => { q with contentType := value })
      rfl (fun _ => rfl)

theorem plain : table.Plain :=
  .of (fun _ type => by cases type <;> simp [table, expects])
    fun _ type _ => by cases type <;> simp [table, store]

/-- **The reader of a PUBLISH gets to all of its properties.** The cursor is ahead of the bytes by one
for each subscription identifier; the last property must be longer than that. -/
def Recoverable (p : PublishProperties) : Prop :=
  match p.contentType, p.subscriptionIdentifiers.getLast? with
  | some typ, _ => p.subscriptionIdentifiers.length < 3 + (utf8 typ).length
  | none, some last => p.subscriptionIdentifiers.length ≤ 1 + lenLen last
  | none, none => True

/-- The surplus of the cursor behind the given properties. -/
def surplus (props : List Property) : Nat := (props.map fun prop => table.extra prop.type).sum

theorem surplus_append (props others : List Property) :
    surplus (props ++ others) = surplus props + surplus others := by
  unfold surplus
  rw [map_append, sum_append]

theorem surplus_optional {type : PropertyType} (other : type ≠ .subscriptionIdentifier)
    (value : Option type.kind.Carrier) : surplus (optional type value) = 0 := by
  cases value with
  | none => rfl
  | some value => exact if_neg other

theorem surplus_userProperties (pairs : UserProperties) :
    surplus (repeated .userProperty pairs) = 0 := by
  induction pairs with
  | nil => rfl
  | cons pair pairs ih => exact (Nat.zero_add _).trans ih

theorem surplus_identifiers (ids : List Nat) :
    surplus (repeated .subscriptionIdentifier ids) = ids.length := by
  induction ids with
  | nil => rfl
  | cons id ids ih => exact (congrArg (1 + ·) ih).trans (Nat.add_comm _ _)

/-- The loop reaches all properties if it reaches the last one. -/
theorem reaches_concat_iff {len : Nat} {props : List Property} {last : Property}
    (total : len = ((props ++ [last]).map Property.len).sum) :
    table.Reaches len 0 (props ++ [last]) ↔ surplus props < last.len := by
  rw [reaches_concat, span_eq]
  show 0 + (_ + surplus props) < len ↔ _
  rw [map_append, sum_append, map_singleton, sum_singleton] at total
  omega

theorem reaches_iff (p : PublishProperties) :
    table.Reaches p.len 0 (entries p) ↔ p.Recoverable := by
  obtain ⟨before, clean, split⟩ : ∃ before, surplus before = 0 ∧ entries p =
      before ++ repeated .subscriptionIdentifier p.subscriptionIdentifiers ++
        optional .contentType p.contentType := by
    refine ⟨_, ?_, rfl⟩
    simp only [surplus_append]
    rw [surplus_optional (by decide), surplus_optional (by decide), surplus_optional (by decide),
      surplus_optional (by decide), surplus_optional (by decide), surplus_userProperties]
  have total := len_eq p
  unfold Recoverable
  cases content : p.contentType with
  | some typ =>
    rw [split, content] at total
    rw [split, content]
    refine (reaches_concat_iff total).trans ?_
    rw [surplus_append, clean, surplus_identifiers, Nat.zero_add]
    show _ < 1 + (2 + (utf8 typ).length) ↔ _
    omega
  | none =>
    have entries_eq : entries p =
        before ++ repeated .subscriptionIdentifier p.subscriptionIdentifiers := by
      rw [split, content]
      exact append_nil _
    rw [entries_eq] at total ⊢
    rcases eq_nil_or_concat p.subscriptionIdentifiers with none_ | ⟨init, last, concat⟩
    · -- without identifiers the cursor counts what is read
      have spans : table.span before = (before.map Property.len).sum + surplus before :=
        span_eq before
      rw [none_, show repeated .subscriptionIdentifier [] = [] from rfl, append_nil] at total ⊢
      exact iff_of_true (reaches_of_span (by omega)) trivial
    · rw [concat_eq_append] at concat
      have pushed : before ++ repeated .subscriptionIdentifier p.subscriptionIdentifiers =
          (before ++ repeated .subscriptionIdentifier init) ++ [⟨.subscriptionIdentifier, last⟩] := by
        rw [concat, append_assoc]
        exact congrArg (before ++ ·) map_append
      rw [pushed] at total ⊢
      refine (reaches_concat_iff total).trans ?_
      rw [surplus_append, clean, surplus_identifiers, concat, List.getLast?_concat]
      show 0 + init.length < 1 + lenLen last ↔ (init ++ [last]).length ≤ 1 + lenLen last
      rw [List.length_append, length_singleton]
      omega

/-- **The block of a PUBLISH** is read back if it is recoverable; otherwise its reader stops inside
it. -/
theorem writes_optional (properties : Option PublishProperties) :
    Writes (writeBlock write properties) fun _ bytes =>
      bytes.length = blockLen len properties ∧
        (properties ≠ some {} → (∀ p ∈ properties, p.Recoverable) → Reads read bytes properties) ∧
        ((∃ p ∈ properties, ¬ p.Recoverable) → StopsShort read bytes) := by
  cases properties with
  | none =>
    refine (writes_remainingLength 0).bind ?_
    rintro _ field ⟨_, size, isLength⟩
    refine Writes.pure ?_
    rw [append_nil]
    refine ⟨size, fun _ _ => reads_absent isLength, ?_⟩
    rintro ⟨p, impossible, _⟩
    cases impossible
  | some p =>
    refine (table.writes_block p.len p).mono ?_
    rintro _ bytes written
    have replayed := replays written.guarded
    have empty_of : p.len = 0 → p = {} := fun zero =>
      eq_empty replayed ((len_eq p).symm.trans zero)
    refine ⟨written.length (len_eq p), fun nonempty recoverable => ?_, ?_⟩
    · have reaches := (reaches_iff p).mpr (recoverable p rfl)
      have some_ : p.len ≠ 0 := fun zero => nonempty (congrArg some (empty_of zero))
      refine reads_block written some_ replayed reaches ?_
      have spans : table.span (entries p) = _ := span_eq (entries p)
      have total := len_eq p
      show p.len ≤ table.span (entries p)
      omega
    · rintro ⟨q, same, bad⟩
      cases same
      have stops : ¬ table.Reaches p.len 0 (entries p) := fun reaches => bad ((reaches_iff p).mp reaches)
      have some_ : p.len ≠ 0 := by
        intro zero
        obtain rfl := empty_of zero
        exact stops trivial
      obtain ⟨field, pieces, rfl, isLength, _, each⟩ := written.pieces
      obtain ⟨r, left, nonempty, ran⟩ := run_stopped each replayed stops
      refine ⟨some r, left, nonempty, fun rest seen => ?_⟩
      rw [append_assoc]
      exact run_block isLength some_ fun seen => ran rest seen

end PublishProperties

/-! ### AUTH -/

namespace AuthProperties

theorem len_eq (p : AuthProperties) : p.len = ((entries p).map Property.len).sum := by
  have pairs : (fun (pair : String × String) =>
      1 + 4 + ((utf8 pair.1).length + (utf8 pair.2).length)) =
        fun pair => 1 + 2 + (utf8 pair.1).length + 2 + (utf8 pair.2).length := by
    funext pair
    omega
  unfold len entries
  simp only [map_append, sum_append, sum_optional, sum_repeated, Kind.width, ← Nat.add_assoc]
  simp only [← Nat.add_assoc] at pairs
  rw [pairs]

theorem replays (p : AuthProperties) : Replays table {} (entries p) p :=
  Replays.start table
    |>.optional .authenticationMethod p.method (fun q value => { q with method := value })
      rfl (fun _ => rfl)
    |>.optional .authenticationData p.data (fun q value => { q with data := value }) rfl (fun _ => rfl)
    |>.optional .reasonString p.reason (fun q value => { q with reason := value }) rfl (fun _ => rfl)
    |>.repeated .userProperty p.userProperties (fun q pairs => { q with userProperties := pairs })
      rfl (fun _ _ => rfl)

theorem plain : table.Plain :=
  .of (fun _ type => by cases type <;> simp [table, expects])
    fun _ type _ => by cases type <;> simp [table, store]

/-- The loop on the bytes of whole properties: it ends with the bytes. -/
theorem run_loop {props : List Property} {pieces : List Bytes}
    (written : List.Forall₂ PropertyWritten props pieces) {p q : AuthProperties}
    (replayed : Replays table p props q) {rounds : Nat} (enough : props.length ≤ rounds)
    (seen : List Block) :
    ∃ seen', (loop rounds p).run ⟨pieces.flatten, seen⟩ = .ok (.ok q, ⟨[], seen'⟩) := by
  induction written generalizing rounds p seen with
  | nil =>
    cases replayed
    refine ⟨seen, ?_⟩
    cases rounds with
    | zero => rfl
    | succ rounds => rfl
  | cons here there ih =>
    rename_i prop piece props pieces
    obtain ⟨rounds, rfl⟩ : ∃ k, rounds = k + 1 := ⟨rounds - 1, by simp at enough; omega⟩
    obtain ⟨expected, next, stored, others⟩ := replay_cons_ok replayed
    obtain ⟨middle, first⟩ := run_round here expected stored
      (fun _ _ q => loop rounds q) pieces.flatten seen
    obtain ⟨last, second⟩ := ih others (by simpa using enough) middle
    refine ⟨last, ?_⟩
    have nonempty : piece ++ pieces.flatten ≠ [] :=
      append_ne_nil_of_left_ne_nil here.ne_nil _
    rw [flatten_cons]
    refine (run_peek_bind _ _).trans ?_
    rw [if_neg nonempty]
    exact first.trans second

theorem writes_optional (properties : Option AuthProperties) :
    Writes (writeBlock write properties) (ReadBack len {} read properties) := by
  cases properties with
  | none =>
    refine (writes_remainingLength 0).bind ?_
    rintro _ field ⟨_, size, isLength⟩
    refine Writes.pure ?_
    rw [append_nil]
    refine ⟨size, fun _ rest seen => ?_⟩
    obtain ⟨middle, skipped⟩ := Reads.advance (ε := Error) field rest seen
    refine ⟨middle ++ [⟨rest, 0, 0⟩], ?_⟩
    refine (run_read_ahead isLength rest seen _).trans ?_
    refine (run_bind_ok skipped).trans ?_
    refine (run_peek_bind _ _).trans ?_
    exact (run_bind_ok (run_failIf_neg (Nat.not_lt_zero _) _ _)).trans rfl
  | some p =>
    refine (table.writes_block p.len p).mono ?_
    rintro _ bytes written
    have replayed := replays p
    refine ⟨written.length (len_eq p), fun nonempty rest seen => ?_⟩
    have some_ : p.len ≠ 0 := fun zero =>
      nonempty (congrArg some (eq_empty replayed ((len_eq p).symm.trans zero)))
    obtain ⟨field, pieces, rfl, isLength, _, each⟩ := written.pieces
    have total : pieces.flatten.length = p.len := (length_pieces each).trans (len_eq p).symm
    have enough : (entries p).length ≤ p.len := by
      rw [← total]
      exact length_le_flatten (each.imp fun _ _ written => ⟨written, written.ne_nil⟩)
    obtain ⟨middle, skipped⟩ := Reads.advance (ε := Error) field (pieces.flatten ++ rest) seen
    obtain ⟨after, cut⟩ := Reads.splitTo (ε := Error) pieces.flatten rest middle
    obtain ⟨last, looped⟩ := run_loop each replayed enough []
    refine ⟨after ++ [⟨pieces.flatten ++ rest, p.len, p.len⟩], ?_⟩
    rw [append_assoc]
    refine (run_read_ahead isLength _ seen _).trans ?_
    refine (run_bind_ok skipped).trans ?_
    refine (run_peek_bind _ _).trans ?_
    refine (run_bind_ok (run_failIf_neg ?_ _ _)).trans ?_
    · rw [List.length_append]
      omega
    dsimp only
    rw [if_neg some_]
    rw [total] at cut
    refine (run_bind_ok cut).trans ?_
    refine (run_bind_ok (run_on looped _)).trans ?_
    rfl

/-- None of the properties of an AUTH has a variable byte integer. -/
theorem kind_ne_varint {p : AuthProperties} {type : PropertyType}
    (expected : table.expects p type = .ok ()) : type.kind ≠ .varint := by
  cases type with
  | subscriptionIdentifier => cases expected
  | _ => exact Kind.noConfusion

theorem steady_loop : ∀ (rounds : Nat) (p : AuthProperties), Steady Complete (loop rounds p)
  | 0, p => .pure p
  | rounds + 1, p => by
    refine Steady.peek.bind fun bytes => .ite (.pure p) ?_
    exact steady_round plain p (fun _ expected => kind_ne_varint expected)
      (fun _ _ q => loop rounds q) fun _ _ q => steady_loop rounds q

end AuthProperties

end Rumqtt.V5
