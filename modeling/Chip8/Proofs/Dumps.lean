import Chip8.Proofs.Effects

/-! Registers dumped to memory and loaded from there. Where all the cells exist each undoes the
other, whatever else lies in them. -/

namespace Chip8

lemma Ram.eq_of_get {size : Nat} {m k : Ram size} (h : ∀ a, m.get a = k.get a) : m = k := by
  obtain ⟨u⟩ := m
  obtain ⟨v⟩ := k
  congr 1
  apply Vector.ext
  intro a ha
  simpa [Ram.get, ha] using h a

namespace Core

/-- `V0` to `VX` lie in the cells from the old `I` on, and `I` has moved behind them. -/
structure Dumped (c d : Core) (x : Register) : Prop where
  cells : ∀ r ≤ x, d.ram.get (c.bank.i.toNat + r) = c.get r
  others : ∀ a, a < c.bank.i.toNat ∨ c.bank.i.toNat + x < a → d.ram.get a = c.ram.get a
  registers : ∀ r, d.get r = c.get r
  pointer : d.bank.i.toNat = c.bank.i.toNat + x + 1

structure Loaded (c d : Core) (x : Register) : Prop where
  registers : ∀ r ≤ x, d.get r = c.ram.get (c.bank.i.toNat + r)
  others : ∀ r, x < r → d.get r = c.get r
  ram : d.ram = c.ram
  pointer : d.bank.i.toNat = c.bank.i.toNat + x + 1

variable {c d e : Core} {x : Register}

lemma min_room (h : c.bank.i.toNat + x ≤ 4095) : min ((x : Nat) + 1) c.room = x + 1 := by
  rw [room]
  omega

lemma dumped_after (h : c.bank.i.toNat + x ≤ 4095) : c.Dumped (c.after (.storeUpTo x)) x := by
  have hm : (c.after (.storeUpTo x)).ram = c.ram.blit c.bank.i.toNat ((upTo x).map c.get) := rfl
  have hl := c.length_stored x
  refine ⟨?_, ?_, ?_, ?_⟩
  · intro r hr
    rw [Fin.le_def] at hr
    rw [hm, c.ram.get_blit_add (by omega) (by omega), List.getElem_map, RegisterBank.getElem_upTo]
  · intro a ha
    rw [hm, c.ram.get_blit_of_outside (by omega)]
  · exact c.get_after _
  · rw [i_after, bankAfter, min_room h]
    exact c.bank.toNat_setI (by omega)

lemma loaded_after (h : c.bank.i.toNat + x ≤ 4095) : c.Loaded (c.after (.loadUpTo x)) x := by
  have hb : c.bankAfter (.loadUpTo x) =
      (c.bank.fill (upTo x) (c.ram.bytes ⟨c.bank.i.toNat, x + 1⟩)).setI
        (c.bank.i.toNat + (x + 1) : Nat) := by
    rw [bankAfter, min_room h]
  have hg (r : Register) : (c.after (.loadUpTo x)).get r =
      ((c.ram.bytes ⟨c.bank.i.toNat, x + 1⟩)[(r : Nat)]?).getD (c.get r) := by
    rw [get_after, hb]
    exact RegisterBank.get_fill_upTo _ _ (Nat.le_of_eq (Ram.length_bytes _ _))
  refine ⟨?_, ?_, rfl, ?_⟩
  · intro r hr
    rw [hg, Ram.getElem?_bytes, if_pos (Nat.lt_succ_of_le hr), Option.getD_some]
  · intro r hr
    rw [hg, Ram.getElem?_bytes, if_neg (Nat.not_lt.mpr hr), Option.getD_none]
  · rw [i_after, hb]
    exact RegisterBank.toNat_setI _ (by omega)

lemma execute_dump (h : c.bank.i.toNat + x ≤ 4095) :
    execute (.storeUpTo x) c = .done (c.after (.storeUpTo x)) :=
  execute_of_unhindered c (if_neg (by rw [pointer]; omega))

lemma execute_load (h : c.bank.i.toNat + x ≤ 4095) :
    execute (.loadUpTo x) c = .done (c.after (.loadUpTo x)) :=
  execute_of_unhindered c (if_neg (by rw [pointer]; omega))

variable {g : Core}

lemma Dumped.get_of_loaded (hd : c.Dumped d x) (hr : e.ram = d.ram) (hi : e.bank.i = c.bank.i)
    (hg : e.Loaded g x) : ∀ r ≤ x, g.get r = c.get r := by
  intro r hx
  rw [hg.registers r hx, hr, hi, hd.cells r hx]

lemma Loaded.ram_of_dumped (hd : c.Loaded d x) (hr : e.ram = d.ram) (hi : e.bank.i = c.bank.i)
    (hv : ∀ r, e.get r = d.get r) (hg : e.Dumped g x) : g.ram = c.ram := by
  apply Ram.eq_of_get
  intro a
  by_cases ha : a < c.bank.i.toNat ∨ c.bank.i.toNat + x < a
  · rw [hg.others a (by rwa [hi]), hr, hd.ram]
  · obtain ⟨r, hx, rfl⟩ : ∃ r ≤ x, a = c.bank.i.toNat + (r : Nat) :=
      ⟨⟨a - c.bank.i.toNat, by omega⟩, Fin.le_def.mpr (by dsimp only; omega),
        by dsimp only; omega⟩
    have hc := hg.cells r hx
    rw [hi] at hc
    rw [hc, hv, hd.registers r hx]

/-- A dump and a load of the same registers at the same place undo each other, whatever has become
of the registers, or of all else but memory and `I`, in between. -/
theorem dump_load_inverse (c : Core) (x : Register) (h : c.bank.i.toNat + x ≤ 4095) :
    (∃ d, execute (.storeUpTo x) c = .done d ∧ c.Dumped d x ∧
      ∀ e : Core, e.ram = d.ram → e.bank.i = c.bank.i →
        ∃ g, execute (.loadUpTo x) e = .done g ∧ (∀ r ≤ x, g.get r = c.get r) ∧
          (∀ r, x < r → g.get r = e.get r) ∧ g.ram = d.ram ∧
          g.bank.i.toNat = c.bank.i.toNat + x + 1) ∧
    ∃ d, execute (.loadUpTo x) c = .done d ∧ c.Loaded d x ∧
      ∃ e, execute (.storeUpTo x) (d.setPointer c.pointer) = .done e ∧ e.ram = c.ram := by
  constructor
  · have hd := dumped_after h
    refine ⟨_, execute_dump h, hd, ?_⟩
    intro e hr hi
    have he : e.bank.i.toNat + x ≤ 4095 := by rwa [hi]
    have hg := loaded_after he
    refine ⟨_, execute_load he, hd.get_of_loaded hr hi hg, hg.others, hr, ?_⟩
    rw [hg.pointer, hi]
  · let e := (c.after (.loadUpTo x)).setPointer c.pointer
    have hd := loaded_after h
    have hi : e.bank.i = c.bank.i := UInt16.toNat_inj.mp (toNat_setPointer _ c.bank.i.toNat_lt)
    have he : e.bank.i.toNat + x ≤ 4095 := by rwa [hi]
    exact ⟨_, execute_load h, hd, _, execute_dump he,
      hd.ram_of_dumped (e := e) rfl hi (fun r => rfl) (dumped_after he)⟩

/-- About to dump all registers to the last cells of memory, where the program counter is. -/
def ceiling : Core where
  settings := .standard
  ram := Ram.zero
  bank := ⟨Vector.ofFn fun r => 17 * UInt8.ofNat r, 0xFF0, 0xFFE⟩
  stack := CallStack.empty
  panel := Panel.fresh
  timers := Countdown.zero
  keypad := Keypad.released

theorem dump_load_inverse_ceiling : ceiling.bank.i.toNat + (15 : Register) ≤ 4095 ∧
    ∃ d g, execute (.storeUpTo 15) ceiling = .done d ∧ d.ram.get 4095 = 0xFF ∧
      execute (.loadUpTo 15) { d with bank := ⟨Vector.replicate 16 0, 0xFF0, 0⟩ } = .done g ∧
      (∀ r, g.get r = ceiling.get r) ∧ g.bank.i.toNat = 4096 := by
  have h : ceiling.bank.i.toNat + (15 : Register) ≤ 4095 := by decide
  obtain ⟨⟨d, hd, hs, hl⟩, -⟩ := dump_load_inverse ceiling 15 h
  obtain ⟨g, hg, hr, -, -, hp⟩ := hl { d with bank := ⟨Vector.replicate 16 0, 0xFF0, 0⟩ } rfl rfl
  exact ⟨h, d, g, hd, hs.cells 15 (Fin.le_last 15), hg, fun r => hr r (Fin.le_last r), hp⟩

end Core

end Chip8
