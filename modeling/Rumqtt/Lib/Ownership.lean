/-
**Exclusive ownership of keys by holders.**

A relation `holds : H → K → Prop` says which holders own a key. It is `Exclusive` when no key has
two holders. A holder may `acquire` a key that nobody holds and `drop` one it has; after a drop the
key is free again (`Exclusive.free_drop`).
-/

namespace Rumqtt

variable {H K : Type} {holds after : H → K → Prop} {owner : H} {key : K}

section

variable (holds : H → K → Prop)

/-- **No key has two holders.** -/
def Exclusive : Prop := ∀ ⦃first second key⦄, holds first key → holds second key → first = second

/-- Ownership after a holder takes a key. -/
def acquire (owner : H) (key : K) : H → K → Prop :=
  fun holder other => holds holder other ∨ (holder = owner ∧ other = key)

/-- Ownership after a holder gives a key up. -/
def drop (owner : H) (key : K) : H → K → Prop :=
  fun holder other => holds holder other ∧ ¬ (holder = owner ∧ other = key)

end

namespace Exclusive

theorem mono (exclusive : Exclusive holds) (fewer : ∀ holder key, after holder key → holds holder key) :
    Exclusive after :=
  fun _ _ _ first second => exclusive (fewer _ _ first) (fewer _ _ second)

protected theorem acquire (exclusive : Exclusive holds) (free : ∀ holder, ¬ holds holder key) :
    Exclusive (acquire holds owner key) := by
  rintro first second other (old | ⟨rfl, rfl⟩) (old' | ⟨rfl, same⟩)
  · exact exclusive old old'
  · exact absurd (same ▸ old) (free first)
  · exact absurd old' (free second)
  · rfl

/-- **A key given up by its holder is free.** -/
theorem free_drop (exclusive : Exclusive holds) (held : holds owner key) (holder : H) :
    ¬ drop holds owner key holder key := fun kept => kept.2 ⟨exclusive kept.1 held, rfl⟩

end Exclusive

end Rumqtt
