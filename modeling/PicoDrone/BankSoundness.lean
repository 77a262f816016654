import Mathlib.Tactic.Cases
import PicoDrone.Firmware.Control
import PicoDrone.Library.LastWrite
import PicoDrone.Library.Run

/-! # Any number of `controladorPWM` objects on one peripheral

The objects share the eight slices, and until it is initialised an object drives
channel 0 of slice 0. The peripheral after any run is read off the calls in closed
form (`nivel_run`, `ajustes_run`); the objects do not disturb each other just when
no two of their pins are wired to one channel. -/
namespace PicoDrone.BankSoundness
open Firmware.Pwm Library.Run Library.LastWrite

/-- The objects `o`, each on its own pin, and the peripheral. -/
structure Banco (ι : Type*) where
  objeto : ι → ControladorPWM
  hw : PwmHw

/-- A call on one of the objects. -/
inductive Orden (ι : Type*) where
  | inicializar (i : ι)
  | controlar (i : ι) (signal : UInt16)

/-- The channel a pin is wired to. -/
def canal (gpio : ℕ) : ℕ × ℕ := (pwmGpioToSliceNum gpio, pwmGpioToChannel gpio)

theorem canal_eq_iff (g h : ℕ) : canal g = canal h ↔ g % 16 = h % 16 := by
  have hslice (n : ℕ) : pwmGpioToSliceNum n = n / 2 % 8 := by
    rw [pwmGpioToSliceNum, Nat.shiftRight_eq_div_pow]
    exact Nat.and_two_pow_sub_one_eq_mod (n / 2) 3
  have hchannel (n : ℕ) : pwmGpioToChannel n = n % 2 := Nat.and_one_is_mod n
  simp only [canal, Prod.mk.injEq, hslice, hchannel]
  omega

def nivel (hw : PwmHw) (c : ℕ × ℕ) : UInt16 := (hw.slices c.1).level c.2

/-- What `inicializar` sets beside the level; the divider is the register, in sixteenths. -/
def ajustes (hw : PwmHw) (s : ℕ) : UInt32 × UInt16 × Bool :=
  ((hw.slices s).clkdiv, (hw.slices s).wrap, (hw.slices s).enabled)

section Machine

variable {ι : Type*}

/-- The constructors. -/
def Banco.nuevo (pines : ι → ℕ) (hw : PwmHw) : Banco ι :=
  { objeto := fun i => .nuevo (pines i), hw }

variable [DecidableEq ι]

def Banco.paso (b : Banco ι) : Orden ι → Banco ι × Unit
  | .inicializar i =>
    let (c, hw) := (b.objeto i).inicializar b.hw
    ({ objeto := Function.update b.objeto i c, hw }, ())
  | .controlar i signal => ({ b with hw := (b.objeto i).controlar b.hw signal }, ())

/-! ## What the calls ask for -/

/-- The level writes of a run, given which objects are initialised. -/
def escrituras (pines : ι → ℕ) (listo : ι → Bool) : List (Orden ι) → List ((ℕ × ℕ) × UInt16)
  | [] => []
  | .inicializar i :: os =>
    (canal (pines i), 1000) :: escrituras pines (Function.update listo i true) os
  | .controlar i signal :: os =>
    (if listo i then canal (pines i) else (0, 0), signal) :: escrituras pines listo os

/-- Each object is initialised before it is used. -/
def Preparadas (listo : ι → Bool) : List (Orden ι) → Prop
  | [] => True
  | .inicializar i :: os => Preparadas (Function.update listo i true) os
  | .controlar i _ :: os => listo i = true ∧ Preparadas listo os

/-- The levels asked for, each beside the object that was asked. -/
def pedidos : List (Orden ι) → List (ι × UInt16) :=
  List.map fun
    | .inicializar i => (i, 1000)
    | .controlar i signal => (i, signal)

/-- The objects that a run initialises. -/
def iniciados : List (Orden ι) → List ι :=
  List.filterMap fun
    | .inicializar i => some i
    | .controlar _ _ => none

theorem escrituras_preparadas {pines : ι → ℕ} {listo : ι → Bool} {os : List (Orden ι)}
    (h : Preparadas listo os) :
    escrituras pines listo os = (pedidos os).map fun w => (canal (pines w.1), w.2) := by
  induction os generalizing listo with
  | nil => rfl
  | cons o os ih =>
    cases o with
    | inicializar i => exact congrArg _ (ih h)
    | controlar i signal =>
      obtain ⟨hi, hos⟩ := h
      rw [escrituras, ih hos, hi]
      rfl

theorem escrituras_aim {pines : ι → ℕ} {listo : ι → Bool} {os : List (Orden ι)}
    {w : (ℕ × ℕ) × UInt16} (h : w ∈ escrituras pines listo os) :
    (∃ i, w.1 = canal (pines i)) ∨ w.1 = (0, 0) := by
  induction os generalizing listo with
  | nil => cases h
  | cons o os ih =>
    cases o with
    | inicializar i =>
      rcases List.mem_cons.mp h with rfl | h
      · exact .inl ⟨i, rfl⟩
      · exact ih h
    | controlar i signal =>
      rcases List.mem_cons.mp h with rfl | h
      · cases hi : listo i with
        | true => exact .inl ⟨i, by simp⟩
        | false => exact .inr (by simp)
      · exact ih h

/-! ## What a call does -/

/-- The objects know their pins, and drive them once initialised. -/
def Corresponde (pines : ι → ℕ) (listo : ι → Bool) (b : Banco ι) : Prop :=
  ∀ i, b.objeto i = if listo i then ⟨pines i, (canal (pines i)).1, (canal (pines i)).2⟩
    else ⟨pines i, 0, 0⟩

omit [DecidableEq ι] in
theorem Corresponde.gpioPwm {pines : ι → ℕ} {listo : ι → Bool} {b : Banco ι}
    (h : Corresponde pines listo b) (i : ι) : (b.objeto i).gpioPwm = pines i := by
  rw [h i]
  cases listo i <;> rfl

theorem Corresponde.inicializar {pines : ι → ℕ} {listo : ι → Bool} {b : Banco ι}
    (h : Corresponde pines listo b) (i : ι) :
    Corresponde pines (Function.update listo i true) (b.paso (.inicializar i)).1 := by
  intro j
  simp only [Banco.paso, ControladorPWM.inicializar]
  by_cases hj : j = i
  · subst hj
    simp [h.gpioPwm, canal]
  · simpa [hj] using h j

theorem nivel_setChanLevel (hw : PwmHw) (c : ℕ × ℕ) (level : UInt16) :
    nivel (hw.pwmSetChanLevel c.1 c.2 level) =
      Function.update (nivel hw) c level := by
  funext d
  simp only [nivel, PwmHw.pwmSetChanLevel_level, Function.update_apply, Prod.ext_iff]

theorem inicializar_slices (c : ControladorPWM) (hw : PwmHw) (s : ℕ) :
    (c.inicializar hw).2.slices s =
      if s = pwmGpioToSliceNum c.gpioPwm then
        { clkdiv := 16 * 125, wrap := 3000, enabled := true
          level := fun d =>
            if d = pwmGpioToChannel c.gpioPwm then 1000 else (hw.slices s).level d }
      else hw.slices s := by
  simp only [ControladorPWM.inicializar, PwmHw.pwmSetChanLevel, PwmHw.pwmSetEnabled,
    PwmHw.pwmSetWrap, PwmHw.pwmSetClkdiv, PwmHw.escribirSlice, PwmHw.gpioSetFunctionPwm]
  by_cases h : s = pwmGpioToSliceNum c.gpioPwm
  · simp only [if_pos h]
    rfl
  · simp only [if_neg h]

theorem nivel_inicializar (c : ControladorPWM) (hw : PwmHw) :
    nivel (c.inicializar hw).2 =
      Function.update (nivel hw) (canal c.gpioPwm) 1000 := by
  funext d
  rw [nivel, inicializar_slices]
  by_cases h : d.1 = pwmGpioToSliceNum c.gpioPwm
  · simp [h, Function.update_apply, Prod.ext_iff, nivel, canal]
  · simp [h, Prod.ext_iff, nivel, canal]

theorem ajustes_inicializar (c : ControladorPWM) (hw : PwmHw) :
    ajustes (c.inicializar hw).2 =
      Function.update (ajustes hw) (canal c.gpioPwm).1 (16 * 125, 3000, true) := by
  funext s
  rw [ajustes, inicializar_slices, Function.update_apply]
  by_cases h : s = pwmGpioToSliceNum c.gpioPwm
  · rw [if_pos h]
    exact (if_pos h).symm
  · rw [if_neg h]
    exact (if_neg h).symm

theorem pines_inicializar (c : ControladorPWM) (hw : PwmHw) :
    (c.inicializar hw).2.pines = Function.update hw.pines c.gpioPwm true := by
  funext g
  exact (Function.update_apply hw.pines c.gpioPwm true g).symm

theorem nivel_controlar (c : ControladorPWM) (hw : PwmHw) (signal : UInt16) :
    nivel (c.controlar hw signal) =
      Function.update (nivel hw) (c.slice, c.channel) signal :=
  nivel_setChanLevel hw (c.slice, c.channel) signal

theorem ajustes_setChanLevel (hw : PwmHw) (slice channel : ℕ) (level : UInt16) :
    ajustes (hw.pwmSetChanLevel slice channel level) = ajustes hw := by
  funext s
  simp only [ajustes, PwmHw.pwmSetChanLevel, PwmHw.escribirSlice]
  by_cases h : s = slice
  · rw [if_pos h]
  · rw [if_neg h]

theorem ajustes_controlar (c : ControladorPWM) (hw : PwmHw) (signal : UInt16) :
    ajustes (c.controlar hw signal) = ajustes hw :=
  ajustes_setChanLevel hw c.slice c.channel signal

/-! ## Runs -/

/-- After a run every channel has the last level the calls have written to it. -/
theorem nivel_run {pines : ι → ℕ} {listo : ι → Bool} {b : Banco ι}
    (hb : Corresponde pines listo b) (os : List (Orden ι)) :
    nivel (stateAfter Banco.paso b os).hw =
      writeAll (nivel b.hw) (escrituras pines listo os) := by
  induction os generalizing b listo with
  | nil => rfl
  | cons o os ih =>
    cases o with
    | inicializar i =>
      rw [stateAfter, ih (hb.inicializar i), escrituras, writeAll]
      simp only [Banco.paso, nivel_inicializar, hb.gpioPwm]
    | controlar i signal =>
      have hstay : Corresponde pines listo (b.paso (.controlar i signal)).1 := hb
      rw [stateAfter, ih hstay, escrituras, writeAll]
      simp only [Banco.paso, nivel_controlar, hb i]
      cases listo i <;> rfl

/-- After a run the slices and pins of the objects initialised are set up, and no others. -/
theorem ajustes_run {pines : ι → ℕ} {listo : ι → Bool} {b : Banco ι}
    (hb : Corresponde pines listo b) (os : List (Orden ι)) :
    ajustes (stateAfter Banco.paso b os).hw =
        writeAll (ajustes b.hw)
          ((iniciados os).map fun i => ((canal (pines i)).1, (16 * 125, 3000, true))) ∧
      (stateAfter Banco.paso b os).hw.pines =
        writeAll b.hw.pines ((iniciados os).map fun i => (pines i, true)) := by
  induction os generalizing b listo with
  | nil => exact ⟨rfl, rfl⟩
  | cons o os ih =>
    cases o with
    | inicializar i =>
      obtain ⟨hajustes, hpines⟩ := ih (hb.inicializar i)
      simp only [Banco.paso, ajustes_inicializar, pines_inicializar, hb.gpioPwm] at hajustes hpines
      exact ⟨hajustes, hpines⟩
    | controlar i signal =>
      have hstay : Corresponde pines listo (b.paso (.controlar i signal)).1 := hb
      obtain ⟨hajustes, hpines⟩ := ih hstay
      simp only [Banco.paso, ajustes_controlar] at hajustes
      exact ⟨hajustes, hpines⟩

omit [DecidableEq ι] in
theorem corresponde_nuevo (pines : ι → ℕ) (hw : PwmHw) :
    Corresponde pines (fun _ => false) (Banco.nuevo pines hw) := fun _ => rfl

/-! ## Main results -/

/-- **Independence.** Whatever is called, in whatever order, as long as each object
is initialised before it is used, every object's channel has the level last asked of
that object: this holds just when the pins differ modulo 16. -/
theorem bank_independent_iff (pines : ι → ℕ) :
    (∀ (hw : PwmHw) (os : List (Orden ι)), Preparadas (fun _ => false) os →
      ∀ i v, lastWrite i (pedidos os) = some v →
        nivel (stateAfter Banco.paso (Banco.nuevo pines hw) os).hw (canal (pines i)) = v) ↔
      ∀ i j, pines i % 16 = pines j % 16 → i = j := by
  constructor
  · -- two objects of one channel: the second one's order is what the first one gets
    intro h i j hij
    by_contra hne
    have hprep : Preparadas (fun _ => false)
        [Orden.inicializar i, .inicializar j, .controlar j 0] := by simp [Preparadas]
    have hlast : lastWrite i (pedidos [Orden.inicializar i, .inicializar j, .controlar j 0]) =
        some 1000 := by simp [pedidos, lastWrite, hne]
    have hnivel := h default _ hprep i 1000 hlast
    rw [nivel_run (corresponde_nuevo pines default), escrituras_preparadas hprep,
      (canal_eq_iff _ _).mpr hij] at hnivel
    simp [pedidos, writeAll] at hnivel
  · intro hinj hw os hprep i v hlast
    have hcanal : Function.Injective fun i => canal (pines i) := fun i j hij =>
      hinj i j ((canal_eq_iff _ _).mp hij)
    rw [nivel_run (corresponde_nuevo pines hw), escrituras_preparadas hprep, writeAll_apply,
      lastWrite_map hcanal, hlast]
    rfl

/-- The four motors do not disturb each other. -/
example (m m' : Firmware.Control.Motor)
    (h : Firmware.Control.gpioMotor m % 16 = Firmware.Control.gpioMotor m' % 16) : m = m' := by
  revert h
  cases m <;> cases m' <;> decide

/-- **Set-up and frame.** After any run, also one that uses an object before its
initialisation, every object initialised so far has its pin handed over and its slice
set up; no other pin and no other slice is, and no channel is written that is not wired
to an object, except the one an object drives before its initialisation. -/
theorem bank_frame (pines : ι → ℕ) (hw : PwmHw) (os : List (Orden ι)) :
    (∀ i ∈ iniciados os,
      (stateAfter Banco.paso (Banco.nuevo pines hw) os).hw.pines (pines i) = true ∧
      ajustes (stateAfter Banco.paso (Banco.nuevo pines hw) os).hw (canal (pines i)).1 =
        (16 * 125, 3000, true)) ∧
    (∀ g, (∀ i ∈ iniciados os, g ≠ pines i) →
      (stateAfter Banco.paso (Banco.nuevo pines hw) os).hw.pines g = hw.pines g) ∧
    (∀ s, (∀ i ∈ iniciados os, s ≠ (canal (pines i)).1) →
      ajustes (stateAfter Banco.paso (Banco.nuevo pines hw) os).hw s =
        ajustes hw s) ∧
    ∀ c, c ≠ (0, 0) → (∀ i, c ≠ canal (pines i)) →
      nivel (stateAfter Banco.paso (Banco.nuevo pines hw) os).hw c = nivel hw c := by
  obtain ⟨hajustes, hpines⟩ := ajustes_run (corresponde_nuevo pines hw) os
  rw [hajustes, hpines, nivel_run (corresponde_nuevo pines hw)]
  refine ⟨fun i hi => ⟨?_, ?_⟩, fun g hg => ?_, fun s hs => ?_, fun c h0 hc => ?_⟩
  · exact writeAll_const hi
  · exact writeAll_const hi
  · exact writeAll_of_forall_ne fun w hw => by
      obtain ⟨i, hi, rfl⟩ := List.mem_map.mp hw
      exact hg i hi
  · exact writeAll_of_forall_ne fun w hw => by
      obtain ⟨i, hi, rfl⟩ := List.mem_map.mp hw
      exact hs i hi
  · exact writeAll_of_forall_ne fun w hw => by
      rcases escrituras_aim hw with ⟨i, hi⟩ | hi
      · exact fun h => hc i (h.trans hi)
      · exact fun h => h0 (h.trans hi)

end Machine

end PicoDrone.BankSoundness
