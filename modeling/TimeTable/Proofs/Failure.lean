import TimeTable.Fault
import TimeTable.Proofs.Outcome

namespace TimeTable

variable {ε α β : Type} {P Q : ε → Prop} {x : Except ε α} {f : α → Except ε β}

/-- Every fault that a step fails with has a property. -/
def FailsWith (P : ε → Prop) (x : Except ε α) : Prop := ∀ fault, x = .error fault → P fault

namespace FailsWith

lemma ok (a : α) : FailsWith P (.ok a) := by
  intro fault h
  exact nomatch h

lemma error {fault : ε} (h : P fault) : FailsWith P (.error fault : Except ε α) := by
  intro fault' h'
  exact Except.error.inj h' ▸ h

lemma mono (hx : FailsWith P x) (h : ∀ fault, P fault → Q fault) : FailsWith Q x :=
  fun fault hfault => h fault (hx fault hfault)

lemma bind (hx : FailsWith P x) (hf : ∀ a, x = .ok a → FailsWith P (f a)) :
    FailsWith P (x >>= f) := by
  cases x with
  | error fault => exact error (hx fault rfl)
  | ok a => exact hf a rfl

lemma map (hx : FailsWith P x) (g : α → β) : FailsWith P (x.map g) := by
  cases x with
  | error fault => exact error (hx fault rfl)
  | ok a => exact ok (g a)

lemma mapM {xs : List α} (hf : ∀ a ∈ xs, FailsWith P (f a)) : FailsWith P (xs.mapM f) := by
  induction xs with
  | nil => exact ok []
  | cons a as ih =>
    rw [List.forall_mem_cons] at hf
    rw [List.mapM_cons]
    exact hf.1.bind fun b _ => (ih hf.2).bind fun bs _ => ok (b :: bs)

end FailsWith

/-- That a fault is the crash at an instant in range whose reading on the clock of a zone is not. -/
def Fault.OfReading (fault : Fault) : Prop :=
  ∃ (unit : TimeUnit) (ticks : Int64) (utc : DateTime) (zone : Zone),
    unit.toDateTime? ticks = some utc ∧ ¬Calendar.inRange (zone.wallClock utc).day ∧
      fault = .readingOutOfRange utc zone

lemma Fault.OfReading.kind_eq {fault : Fault} (h : fault.OfReading) : fault.kind = .crash := by
  obtain ⟨-, -, utc, zone, -, -, rfl⟩ := h
  rfl

/-- Whether a kind of errors is one of values and the columns they are looked for in: of their types, of
what they are asked for, and of references to columns. -/
def Fault.Kind.isOfValues : Kind → Bool
  | typeMismatch | invalidArgument | invalidOperation | columnNotFound => true
  | keyInconsistency | shapeMismatch | duplicateColumn | csv | io | crash => false

/-- That a fault is an error of values or, if there is something with a zone, the crash at a reading. -/
def Fault.OfValues (zoned : Prop) (fault : Fault) : Prop :=
  fault.kind.isOfValues = true ∨ fault.OfReading ∧ zoned

variable {fault : Fault} {zoned zoned' : Prop}

lemma Fault.ofValues_of_invalidOperation (h : fault.kind = .invalidOperation) :
    fault.OfValues zoned := by
  rw [OfValues, h]
  exact .inl rfl

lemma Fault.OfValues.mono (h : fault.OfValues zoned) (hzoned : zoned → zoned') :
    fault.OfValues zoned' :=
  Or.imp_right (And.imp_right hzoned) h

lemma FailsWith.ofValues_mono {x : Except Fault α} (hx : FailsWith (Fault.OfValues zoned) x)
    (hzoned : zoned → zoned') : FailsWith (Fault.OfValues zoned') x :=
  hx.mono fun _ h => h.mono hzoned

lemma Fault.OfValues.kind_ne (h : fault.OfValues zoned) {kind : Kind} (hkind : kind.isOfValues = false)
    (hcrash : kind ≠ .crash) : fault.kind ≠ kind := by
  rintro rfl
  rcases h with h | ⟨h, -⟩
  · exact Bool.false_ne_true (hkind.symm.trans h)
  · exact hcrash h.kind_eq

end TimeTable
