import RemoteDesk.Path
import RemoteDesk.Proofs.Text.Utf8

/-! # Paths that can be typed

A path that was typed as a text prints as that text, so it can be typed again. Directories that hold
such a path and paths that start from such a directory can be typed, too: separators and dots are
bytes below 128, so cutting or joining at them leaves texts.
-/

namespace RemoteDesk.Path

open Utf8

/-- The path is the one that some text names. -/
def Spelled (p : Path) : Prop :=
  ∃ s, p = ofString s

theorem Spelled.of_bytes {bytes : Bytes} (h : ∃ s, bytes = encode s) : Spelled ⟨bytes⟩ := by
  obtain ⟨s, rfl⟩ := h
  exact ⟨s, rfl⟩

theorem spelled_ofString (s : String) : Spelled (ofString s) :=
  ⟨s, rfl⟩

theorem spelled_empty : Spelled empty :=
  spelled_ofString ""

theorem Spelled.ofString_display {p : Path} (h : p.Spelled) : ofString p.display = p := by
  obtain ⟨s, rfl⟩ := h
  exact congrArg ofString (decodeLossy_encode s)

theorem Spelled.join {base child : Path} (hb : base.Spelled) (hc : child.Spelled) :
    (base.join child).Spelled := by
  obtain ⟨b, rfl⟩ := hb
  obtain ⟨c, rfl⟩ := hc
  unfold Path.join
  split
  · exact ⟨c, rfl⟩
  · split
    · exact .of_bytes ⟨b ++ c, (encode_append b c).symm⟩
    · refine .of_bytes ⟨b ++ ("/" ++ c), ?_⟩
      rw [encode_append, encode_append]
      rfl

/-! ## Cutting the end off -/

/-- The bytes, last first, spell a text. -/
def SpelledBackwards (back : Bytes) : Prop :=
  ∃ s, back.reverse = encode s

theorem SpelledBackwards.of_append {front back : Bytes} {b : UInt8} (small : b.toNat < 0x80)
    (h : SpelledBackwards (front ++ b :: back)) : SpelledBackwards back := by
  obtain ⟨s, spells⟩ := h
  rw [List.reverse_append, List.reverse_cons, List.append_assoc] at spells
  exact exists_encode_of_split small spells.symm

theorem SpelledBackwards.of_cons {back : Bytes} {b : UInt8} (small : b.toNat < 0x80)
    (h : SpelledBackwards (b :: back)) : SpelledBackwards back := by
  rw [← List.nil_append (b :: back)] at h
  exact h.of_append small

theorem SpelledBackwards.cons_slash {back : Bytes} (h : SpelledBackwards back) :
    SpelledBackwards (slash :: back) := by
  obtain ⟨s, spells⟩ := h
  exact ⟨s ++ "/", by rw [List.reverse_cons, spells, encode_append]; rfl⟩

theorem SpelledBackwards.dropIdleEnd {back : Bytes} (h : SpelledBackwards back) :
    SpelledBackwards (dropIdleEnd back) := by
  fun_induction Path.dropIdleEnd back with
  | case1 => exact h
  | case2 b => exact h
  | case3 b rest ih => exact ih (h.of_cons (by decide))
  | case4 a b rest notSlash idle ih =>
      obtain ⟨rfl, -⟩ := idle
      exact ih (h.of_cons (by decide))
  | case5 a b rest notSlash named => exact h

/-- What is left of a path without its last name is empty or ends in a separator. -/
theorem SpelledBackwards.dropName {back : Bytes} (h : SpelledBackwards back) :
    SpelledBackwards (back.dropWhile (· ≠ slash)) := by
  rcases left : back.dropWhile (· ≠ slash) with _ | ⟨b, rest⟩
  · exact ⟨"", rfl⟩
  · have stops := List.head?_dropWhile_not (· ≠ slash) back
    rw [left, List.head?_cons] at stops
    obtain rfl : b = slash := by simpa using stops
    rw [← List.takeWhile_append_dropWhile (p := (· ≠ slash)) (l := back), left] at h
    exact (h.of_append (by decide)).cons_slash

theorem Spelled.parent? {p holder : Path} (h : p.Spelled) (held : p.parent? = some holder) :
    holder.Spelled := by
  obtain ⟨s, rfl⟩ := h
  have whole : SpelledBackwards (backwards (ofString s)) :=
    SpelledBackwards.dropIdleEnd ⟨s, List.reverse_reverse _⟩
  unfold Path.parent? at held
  split at held
  · cases held
  · split at held
    · cases held
    · cases held
      exact .of_bytes whole.dropName.dropIdleEnd

/-- The directory that a path is read from can be typed if the path can. -/
theorem Spelled.directory {p : Path} (h : p.Spelled) : (p.parent?.getD empty).Spelled := by
  cases held : p.parent? with
  | none => exact spelled_empty
  | some holder => exact h.parent? held

end RemoteDesk.Path
