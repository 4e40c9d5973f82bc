import Mathlib.Data.List.Infix

/-!
Log entries as `BaseMonitor::log_message` sends them (base_monitor.hpp:51-74).
The four arguments are kept whole; the transport (journal or logging service) is
chosen at build time and gets the same values.
-/
namespace HostErrorMonitor.Source

/-- The syslog priorities the monitors use. -/
inductive LogPriority where
  | logErr
  | logInfo
  deriving DecidableEq, Repr

structure LogEntry where
  priority : LogPriority
  msg : String
  redfishId : String
  redfishMsg : String
  deriving DecidableEq, Repr

/-- The characters after the last blank. -/
def lastWord (text : List Char) : List Char :=
  (text.reverse.takeWhile (fun c => c != ' ')).reverse

theorem lastWord_of_suffix (text word : List Char) (solid : ' ' ∉ word)
    (suffix : ' ' :: word <:+ text) : lastWord text = word := by
  obtain ⟨before, rfl⟩ := suffix
  have letters : ∀ c ∈ word.reverse, (c != ' ') = true := by
    intro c hc
    rw [List.mem_reverse] at hc
    simp only [bne_iff_ne]
    rintro rfl
    exact solid hc
  simp only [lastWord, List.reverse_append, List.reverse_cons, List.append_assoc]
  rw [List.takeWhile_append_of_pos letters]
  simp

theorem blank_notMem_repr (n : Nat) : ' ' ∉ n.repr.toList := by
  rw [Nat.toList_repr]
  intro member
  have digit := Nat.isDigit_of_mem_toDigits (by decide) (by decide) member
  exact absurd digit (by decide)

/-- A numeral is read back from its characters. -/
theorem repr_toList_inj {m n : Nat} (same : m.repr.toList = n.repr.toList) : m = n := by
  rw [Nat.toList_repr, Nat.toList_repr] at same
  rw [← Nat.ofDigitChars_ten_toDigits (n := m), same, Nat.ofDigitChars_ten_toDigits]

/-- A numeral at the end of a text, after a blank, is read back from the text. -/
theorem repr_suffix_inj (text : List Char) (m n : Nat)
    (hm : ' ' :: m.repr.toList <:+ text) (hn : ' ' :: n.repr.toList <:+ text) : m = n := by
  have wordM := lastWord_of_suffix text _ (blank_notMem_repr m) hm
  have wordN := lastWord_of_suffix text _ (blank_notMem_repr n) hn
  exact repr_toList_inj (wordM.symm.trans wordN)

end HostErrorMonitor.Source
