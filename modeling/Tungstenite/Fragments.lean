import Tungstenite.Frame

/-!
# The fragmentation language

What a peer may send as data frames, each seen by its opcode and fin bit
(RFC 6455 §5.4): `Messages` is the language
((Text|Binary, final) | (Text|Binary, non-final)(Continuation, non-final)*(Continuation, final))*,
`EndsInside` its words followed by the start of an unfinished message, and
`Completable` its prefixes.

`fragRun` is the automaton that reads such a sequence, its state whether a
message is unfinished: it accepts exactly the prefixes of the language
(`completable_iff`), and ends inside a message exactly on `EndsInside`
(`fragRun_eq_true_iff`).
-/

namespace Tungstenite

/-- A data frame seen by its opcode and fin bit. -/
abbrev Fragment := OpData × Bool

/-- An opcode that starts a message. -/
def OpData.IsStart (d : OpData) : Prop := d = .text ∨ d = .binary

/-- The language of whole messages. -/
inductive Messages : List Fragment → Prop
  | nil : Messages []
  | single {d : OpData} {rest : List Fragment} : d.IsStart → Messages rest →
      Messages ((d, true) :: rest)
  | fragmented {d : OpData} {rest : List Fragment} (n : Nat) : d.IsStart → Messages rest →
      Messages ((d, false) :: List.replicate n (.continue, false) ++ (.continue, true) :: rest)

/-- Whole messages, then the start of one not finished yet. -/
def EndsInside (s : List Fragment) : Prop :=
  ∃ p d n, Messages p ∧ OpData.IsStart d ∧ s = p ++ (d, false) :: List.replicate n (.continue, false)

/-- A prefix of the language: some frames complete it to whole messages. -/
def Completable (s : List Fragment) : Prop := ∃ t, Messages (s ++ t)

/-- One data frame read: the automaton's state is whether a message is
unfinished, and `none` means the frame left the language's prefixes. -/
def fragStep : Bool → Fragment → Option Bool
  | false, (.text, fin) => some !fin
  | false, (.binary, fin) => some !fin
  | true, (.continue, fin) => some !fin
  | _, _ => none

/-- The automaton run over a sequence of data frames. -/
def fragRun : Bool → List Fragment → Option Bool
  | b, [] => some b
  | b, x :: xs => (fragStep b x).bind (fragRun · xs)

theorem fragRun_append (b : Bool) (s t : List Fragment) :
    fragRun b (s ++ t) = (fragRun b s).bind (fragRun · t) := by
  induction s generalizing b with
  | nil => rfl
  | cons x s ih => cases h : fragStep b x <;> simp [fragRun, h, ih]

@[simp] theorem fragStep_continue (fin : Bool) : fragStep true (.continue, fin) = some !fin := rfl

theorem fragRun_replicate (n : Nat) (t : List Fragment) :
    fragRun true (List.replicate n (.continue, false) ++ t) = fragRun true t := by
  induction n with
  | zero => rfl
  | succ n ih => simpa [fragRun, List.replicate_succ, fragStep_continue] using ih

theorem fragStep_start {d : OpData} (h : d.IsStart) (fin : Bool) : fragStep false (d, fin) = some !fin := by
  rcases h with rfl | rfl <;> rfl

theorem Messages.fragRun {s : List Fragment} (h : Messages s) (t : List Fragment) :
    fragRun false (s ++ t) = fragRun false t := by
  induction h with
  | nil => rfl
  | single hd _ ih => simpa [Tungstenite.fragRun, fragStep_start hd] using ih
  | fragmented n hd _ ih =>
    simpa [Tungstenite.fragRun, fragStep_start hd, fragRun_replicate] using ih

theorem Messages.append {s t : List Fragment} (hs : Messages s) (ht : Messages t) :
    Messages (s ++ t) := by
  induction hs with
  | nil => exact ht
  | single hd _ ih => exact .single hd ih
  | fragmented n hd _ ih => simpa using Messages.fragmented n hd ih

theorem EndsInside.fragRun {s : List Fragment} (h : EndsInside s) : fragRun false s = some true := by
  obtain ⟨p, d, n, hp, hd, rfl⟩ := h
  rw [hp.fragRun]
  simpa [Tungstenite.fragRun, fragStep_start hd] using fragRun_replicate n []

/-- What the automaton's final state says of the sequence it read. -/
theorem fragRun_sound (s : List Fragment) :
    (fragRun false s = some false → Messages s) ∧ (fragRun false s = some true → EndsInside s) := by
  induction s using List.reverseRecOn with
  | nil => exact ⟨fun _ => .nil, fun h => by cases h⟩
  | append_singleton s x ih =>
    obtain ⟨d, fin⟩ := x
    rw [fragRun_append]
    cases hs : fragRun false s with
    | none => simp
    | some b =>
      cases b
      · have hm := ih.1 hs
        cases d <;> cases fin <;> simp [fragRun, fragStep]
        · exact ⟨s, .text, 0, hm, Or.inl rfl, by simp⟩
        · simpa using hm.append (.single (Or.inl rfl) .nil)
        · exact ⟨s, .binary, 0, hm, Or.inr rfl, by simp⟩
        · simpa using hm.append (.single (Or.inr rfl) .nil)
      · obtain ⟨p, d', n, hp, hd, rfl⟩ := ih.2 hs
        cases d <;> cases fin <;> simp [fragRun, fragStep]
        · exact ⟨p, d', n + 1, hp, hd, by simp [List.replicate_succ']⟩
        · simpa using hp.append (.fragmented n hd .nil)

theorem fragRun_eq_false_iff (s : List Fragment) : fragRun false s = some false ↔ Messages s :=
  ⟨(fragRun_sound s).1, fun h => by simpa using h.fragRun []⟩

theorem fragRun_eq_true_iff (s : List Fragment) : fragRun false s = some true ↔ EndsInside s :=
  ⟨(fragRun_sound s).2, EndsInside.fragRun⟩

/-- The automaton accepts exactly the prefixes of the language. -/
theorem completable_iff (s : List Fragment) : Completable s ↔ (fragRun false s).isSome := by
  constructor
  · rintro ⟨t, ht⟩
    have h := (fragRun_eq_false_iff _).2 ht
    rw [fragRun_append] at h
    cases hs : fragRun false s <;> simp_all
  · intro h
    cases hs : fragRun false s with
    | none => simp [hs] at h
    | some b =>
      cases b
      · exact ⟨[], by simpa using (fragRun_eq_false_iff s).1 hs⟩
      · obtain ⟨p, d, n, hp, hd, rfl⟩ := (fragRun_eq_true_iff _).1 hs
        exact ⟨[(.continue, true)], by simpa using hp.append (.fragmented n hd .nil)⟩

end Tungstenite
