import PicoDrone.ClockSoundness
import PicoDrone.Firmware.Interrupciones
import PicoDrone.OffsetsSoundness

/-! # What the sensor has been told, over many starts

The sensor keeps its power when the program starts again. Every call leaves the
configuration as it is or stores a message of the set-up in it (`Tras`), so the loop never
changes it, and a register holds what the program says as soon as one start has got the
message through (`configuration_of_starts`). What a start prints is what the earlier ones
left, seen through the windows of `mostrar_offsets` (`start_reports`). -/
namespace PicoDrone.ConfigurationSoundness
open Library.RegisterFile Library.Run Library.WrappingClock Firmware.I2c Firmware.Offsets
open Firmware.Mpu Firmware.Sensor Firmware.Programa Firmware.MedidorPulso
open Firmware.Interrupciones OffsetsSoundness ClockSoundness LoopSoundness

/-! ## One transfer -/

theorem escribir_registros (b : Bus) (r : UInt8) (datos : List UInt8) :
    (b.i2cWriteBlocking (r :: datos)).registros =
      if b.exito 0 then store siguiente b.registros r datos else b.registros := by
  unfold Bus.i2cWriteBlocking
  cases hw : b.exito 0 <;> simp

theorem escribir_exito (b : Bus) (r : UInt8) (datos : List UInt8) (n : ℕ) :
    (b.i2cWriteBlocking (r :: datos)).exito n = b.exito (n + 1) := by
  unfold Bus.i2cWriteBlocking
  cases hw : b.exito 0 <;> simp

theorem leer_conserva {k : ℕ} (b : Bus) (dst : Fin k → UInt8) :
    (b.i2cReadBlocking dst).1.registros = b.registros ∧
      ∀ n, (b.i2cReadBlocking dst).1.exito n = b.exito (n + 1) := by
  unfold Bus.i2cReadBlocking
  cases hr : b.exito 0 <;> simp

/-! ## Calls -/

/-- The message `w` as far as it gets through. -/
def entregado (exito : Bool) (w : UInt8 × List UInt8) : List (UInt8 × List UInt8) :=
  if exito then [w] else []

/-- Bus `b` has been reached from `b0` by `k` transfers, of which those that change the
configuration have stored `ws`. -/
structure Tras (b0 : Bus) (k : ℕ) (ws : List (UInt8 × List UInt8)) (b : Bus) : Prop where
  exito : ∀ n, b.exito n = b0.exito (k + n)
  registros : Set.EqOn b.registros (storeAll siguiente b0.registros ws) {r | r ∈ configuracion}

namespace Tras

variable {b0 b : Bus} {k : ℕ} {ws : List (UInt8 × List UInt8)}

theorem inicio (b : Bus) : Tras b 0 [] b :=
  ⟨fun n => by rw [Nat.zero_add], fun _ _ => rfl⟩

theorem exito_cero (h : Tras b0 k ws b) : b.exito 0 = b0.exito k := h.exito 0

theorem exito_resto (h : Tras b0 k ws b) (n : ℕ) : b.exito (n + 1) = b0.exito (k + 1 + n) := by
  rw [h.exito, Nat.add_comm n, Nat.add_assoc]

theorem desvio (h : Tras b0 k ws b) (d : Desvio) : Tras b0 k ws (d.en b) :=
  ⟨h.exito, fun r hr => (d.respeta b.registros r hr).trans (h.registros hr)⟩

theorem escribir (h : Tras b0 k ws b) (r : UInt8) (datos : List UInt8) :
    Tras b0 (k + 1) (ws ++ entregado (b0.exito k) (r, datos))
      (b.i2cWriteBlocking (r :: datos)) := by
  refine ⟨fun n => (escribir_exito b r datos n).trans (h.exito_resto n), ?_⟩
  rw [escribir_registros, h.exito_cero, entregado]
  cases b0.exito k with
  | true =>
    rw [if_pos rfl, if_pos rfl, storeAll_append]
    exact store_eqOn siguiente h.registros r datos
  | false =>
    rw [if_neg Bool.false_ne_true, if_neg Bool.false_ne_true, List.append_nil]
    exact h.registros

theorem seleccionar (h : Tras b0 k ws b) (r : UInt8) :
    Tras b0 (k + 1) ws (b.i2cWriteBlocking [r]) := by
  refine ⟨fun n => (escribir_exito b r [] n).trans (h.exito_resto n), ?_⟩
  rw [escribir_registros, store, ite_self]
  exact h.registros

theorem leer {n : ℕ} (h : Tras b0 k ws b) (dst : Fin n → UInt8) :
    Tras b0 (k + 1) ws (b.i2cReadBlocking dst).1 := by
  obtain ⟨hregistros, hexito⟩ := leer_conserva b dst
  refine ⟨fun n => (hexito n).trans (h.exito_resto n), ?_⟩
  rw [hregistros]
  exact h.registros

theorem leerRegistro (h : Tras b0 k ws b) (buffer : Fin 1 → UInt8) (val : UInt8) :
    Tras b0 (k + 2) ws (leerRegistro b buffer val).1 :=
  (h.seleccionar val).leer buffer

theorem leerOffset (h : Tras b0 k ws b) (buffer : Fin 6 → UInt8) (val : UInt8) :
    Tras b0 (k + 2) ws (leerOffset b buffer val).1 :=
  (h.seleccionar val).leer buffer

theorem mostrarOffsets (h : Tras b0 k ws b) (buffer : Fin 6 → UInt8) :
    Tras b0 (k + 12) ws (mostrarOffsets b buffer).1 :=
  (((((h.leerOffset _ 0x13).leerOffset _ 0x14).leerOffset _ 0x15).leerOffset _ 0x06).leerOffset
    _ 0x08).leerOffset _ 0x0A

theorem mpu6050ReadRaw (h : Tras b0 k ws b) (buffer : Fin 6 → UInt8) (s : Crudo) :
    Tras b0 (k + 6) ws (mpu6050ReadRaw b buffer s).1 :=
  ((((((h.seleccionar 0x3B).leer _).seleccionar 0x43).leer _).seleccionar 0x41).leer _)

/-- A message of `set_offsets`. -/
theorem mensaje (h : Tras b0 k ws b) (r : UInt8) (x : Int16) :
    Tras b0 (k + 1) (ws ++ entregado (b0.exito k) (r, [alto x, bajo x]))
      (b.i2cWriteBlocking (mensaje r x)) :=
  h.escribir r [alto x, bajo x]

end Tras

/-! ## The set-up -/

/-- The transfers of `set_offsets` in the set-up, with the register and the value of each. -/
def tablaOffsets : List (ℕ × UInt8 × Int16) :=
  [(20, 0x13, -303), (21, 0x15, 86), (22, 0x17, -38), (23, 0x06, -1493), (24, 0x08, 1868),
    (25, 0x0A, 1243)]

/-- The messages of the set-up that change the configuration, with the transfer of each. -/
def mensajes : List (ℕ × UInt8 × List UInt8) :=
  (0, 0x6B, [0x00]) :: (3, 0x38, [0x01]) ::
    tablaOffsets.map fun q => (q.1, q.2.1, [alto q.2.2, bajo q.2.2])

/-- Those that get through. -/
def entregas (exito : ℕ → Bool) : List (UInt8 × List UInt8) :=
  mensajes.flatMap fun p => entregado (exito p.1) p.2

theorem Tras.reset (b : Bus) : Tras b 1 (entregado (b.exito 0) (0x6B, [0x00])) (mpu6050Reset b) :=
  (Tras.inicio b).escribir 0x6B [0x00]

/-- The bus when `INT_ENABLE` is written. -/
theorem Tras.antes (b : Bus) (e : EntradaMain) :
    Tras b 3 (entregado (b.exito 0) (0x6B, [0x00]))
      (readINTEnable ((e.desvio 0).en (mpu6050Reset b)) (e.pila 0)).1 :=
  ((Tras.reset b).desvio _).leerRegistro _ 0x38

theorem preparar_tras (b : Bus) (e : EntradaMain) :
    Tras b 26 (entregas b.exito) (preparar b e).1 := by
  have hintEnable := ((Tras.antes b e).desvio (e.desvio 1)).escribir 0x38 [0x01]
  have hdespues := (hintEnable.desvio (e.desvio 2)).leerRegistro (e.pila 1) 0x38
  have hreadINT := (hdespues.desvio (e.desvio 3)).leerRegistro (e.pila 2) 0x3A
  have hmostrar := (hreadINT.desvio (e.desvio 4)).mostrarOffsets e.buffer
  have hgyr := (((hmostrar.desvio (e.desvio 5)).mensaje 0x13 (-303)).mensaje 0x15 86).mensaje
    0x17 (-38)
  have hacc : Tras b 26 _ (preparar b e).1 :=
    ((hgyr.mensaje 0x06 (-1493)).mensaje 0x08 1868).mensaje 0x0A 1243
  simpa only [entregas, mensajes, tablaOffsets, List.map, List.flatMap_cons, List.flatMap_nil,
    List.append_nil, List.append_assoc] using hacc

/-! ## What is read -/

section Reading

variable {b0 b : Bus} {k : ℕ} {ws : List (UInt8 × List UInt8)}

/-- The two transfers of a read that succeeds. -/
theorem leer_valor {n : ℕ} (h : Tras b0 k ws b) (hselect : b0.exito k = true)
    (hread : b0.exito (k + 1) = true) (val : UInt8) (dst : Fin n → UInt8) (i : Fin n)
    (hmem : siguiente^[i] val ∈ configuracion) :
    ((b.i2cWriteBlocking [val]).i2cReadBlocking dst).2 i =
      storeAll siguiente b0.registros ws (siguiente^[i] val) := by
  have hread' : b.exito 1 = true := (h.exito_resto 0).trans hread
  refine Eq.trans ?_ (h.registros hmem)
  simp [Bus.i2cWriteBlocking, Bus.i2cReadBlocking, h.exito_cero.trans hselect, hread', store]

theorem leerRegistro_valor (h : Tras b0 k ws b) (hselect : b0.exito k = true)
    (hread : b0.exito (k + 1) = true) {val : UInt8} (hmem : val ∈ configuracion)
    (buffer : Fin 1 → UInt8) :
    (leerRegistro b buffer val).2 = storeAll siguiente b0.registros ws val :=
  leer_valor h hselect hread val buffer 0 hmem

/-- The registers that `mostrar_offsets` selects. -/
def mostradas : List UInt8 := [0x13, 0x14, 0x15, 0x06, 0x08, 0x0A]

theorem mem_mostradas {r : UInt8} : r ∈ mostradas ↔
    r = 0x13 ∨ r = 0x14 ∨ r = 0x15 ∨ r = 0x06 ∨ r = 0x08 ∨ r = 0x0A := by
  simp [mostradas]

theorem mostradas_configuracion {r : UInt8} (hr : r ∈ mostradas) :
    r ∈ configuracion ∧ siguiente r ∈ configuracion := by
  rcases mem_mostradas.mp hr with rfl | rfl | rfl | rfl | rfl | rfl <;> simp [configuracion, siguiente]

theorem leerOffset_valor (h : Tras b0 k ws b) (hselect : b0.exito k = true)
    (hread : b0.exito (k + 1) = true) {val : UInt8} (hval : val ∈ mostradas)
    (buffer : Fin 6 → UInt8) :
    (leerOffset b buffer val).2.2 = ventana (storeAll siguiente b0.registros ws) val := by
  obtain ⟨hmem, hmem'⟩ := mostradas_configuracion hval
  exact congrArg₂ palabra (leer_valor h hselect hread val buffer 0 hmem)
    (leer_valor h hselect hread val buffer 1 hmem')

/-- `mostrar_offsets` when its twelve transfers succeed. -/
theorem mostrarOffsets_valores (h : Tras b0 k ws b) (hok : ∀ n < 12, b0.exito (k + n) = true)
    (buffer : Fin 6 → UInt8) :
    let m := storeAll siguiente b0.registros ws
    (mostrarOffsets b buffer).2 =
      { gx := ventana m 0x13, gy := ventana m 0x14, gz := ventana m 0x15, ax := ventana m 0x06,
        ay := ventana m 0x08, az := ventana m 0x0A } := by
  intro m
  let t1 := leerOffset b buffer 0x13
  let t2 := leerOffset t1.1 t1.2.1 0x14
  let t3 := leerOffset t2.1 t2.2.1 0x15
  let t4 := leerOffset t3.1 t3.2.1 0x06
  let t5 := leerOffset t4.1 t4.2.1 0x08
  let t6 := leerOffset t5.1 t5.2.1 0x0A
  have h1 : Tras b0 (k + 2) ws t1.1 := h.leerOffset _ _
  have h2 : Tras b0 (k + 4) ws t2.1 := h1.leerOffset _ _
  have h3 : Tras b0 (k + 6) ws t3.1 := h2.leerOffset _ _
  have h4 : Tras b0 (k + 8) ws t4.1 := h3.leerOffset _ _
  have h5 : Tras b0 (k + 10) ws t5.1 := h4.leerOffset _ _
  have hgx : t1.2.2 = ventana m 0x13 :=
    leerOffset_valor h (hok 0 (by omega)) (hok 1 (by omega)) (by simp [mem_mostradas]) _
  have hgy : t2.2.2 = ventana m 0x14 :=
    leerOffset_valor h1 (hok 2 (by omega)) (hok 3 (by omega)) (by simp [mem_mostradas]) _
  have hgz : t3.2.2 = ventana m 0x15 :=
    leerOffset_valor h2 (hok 4 (by omega)) (hok 5 (by omega)) (by simp [mem_mostradas]) _
  have hax : t4.2.2 = ventana m 0x06 :=
    leerOffset_valor h3 (hok 6 (by omega)) (hok 7 (by omega)) (by simp [mem_mostradas]) _
  have hay : t5.2.2 = ventana m 0x08 :=
    leerOffset_valor h4 (hok 8 (by omega)) (hok 9 (by omega)) (by simp [mem_mostradas]) _
  have haz : t6.2.2 = ventana m 0x0A :=
    leerOffset_valor h5 (hok 10 (by omega)) (hok 11 (by omega)) (by simp [mem_mostradas]) _
  change ({ gx := t1.2.2, gy := t2.2.2, gz := t3.2.2, ax := t4.2.2, ay := t5.2.2,
            az := t6.2.2 } : Valores) = _
  rw [hgx, hgy, hgz, hax, hay, haz]

end Reading

/-! ## Starts -/

section Starts

variable {F : Type*} [Zero F] [Add F] [Mul F] [Div F] [NatCast F] [IntCast F]
  [OfScientific F] [DecidableEq F]

/-- One start of the program: which of its transfers succeed, what it finds in memory, and
what its iterations read until it is stopped. -/
structure Arranque (F : Type*) where
  exito : ℕ → Bool
  main : EntradaMain
  crudo : Crudo
  angXPrev : F
  tiempoPrevio : UInt32
  vueltas : List EntradaVuelta

def Arranque.bus (e : Arranque F) (b : Bus) : Bus := { b with exito := e.exito }

/-- The program from the start on a bus to its last iteration. -/
def Arranque.final (lib : Libm F) (b : Bus) (e : Arranque F) : EstadoMain F :=
  stateAfter (EstadoMain.paso lib)
    (.inicial (preparar (e.bus b) e.main).1 e.crudo e.angXPrev e.tiempoPrevio) e.vueltas

/-- The bus a start leaves to the next one, and what the set-up prints. -/
def encender (lib : Libm F) (b : Bus) (e : Arranque F) : Bus × Impreso :=
  ((e.final lib b).bus, (preparar (e.bus b) e.main).2)

/-- **One start.** The loop only selects and reads. -/
theorem encender_registros (lib : Libm F) (b : Bus) (e : Arranque F) :
    Set.EqOn (encender lib b e).1.registros
      (storeAll siguiente b.registros (entregas e.exito)) {r | r ∈ configuracion} := by
  have hinicio : ∃ k, Tras (e.bus b) k (entregas e.exito) (preparar (e.bus b) e.main).1 :=
    ⟨26, preparar_tras (e.bus b) e.main⟩
  have hrun : ∃ k, Tras (e.bus b) k (entregas e.exito) (e.final lib b).bus := by
    refine stateAfter_inv (P := fun s : EstadoMain F =>
      ∃ k, Tras (e.bus b) k (entregas e.exito) s.bus) hinicio ?_ e.vueltas
    rintro s v ⟨k, h⟩
    exact ⟨k + 6, (h.desvio v.desvio).mpu6050ReadRaw v.buffer s.crudo⟩
  obtain ⟨k, h⟩ := hrun
  exact h.registros

/-- The registers after any starts are those before with all that got through. -/
theorem arranques_registros (lib : Libm F) (b : Bus) (l : List (Arranque F)) :
    Set.EqOn (stateAfter (encender lib) b l).registros
      (storeAll siguiente b.registros (l.flatMap fun e => entregas e.exito))
      {r | r ∈ configuracion} := by
  induction l generalizing b with
  | nil => exact fun _ _ => rfl
  | cons e l ih =>
    rw [List.flatMap_cons, storeAll_append]
    have htail := ih (encender lib b e).1
    exact fun r hr => (htail hr).trans (storeAll_eqOn siguiente (encender_registros lib b e) _ hr)

/-! ## What gets through -/

/-- Transfer `k` of the set-up succeeds in one of the starts. -/
def llega (l : List (Arranque F)) (k : ℕ) : Bool := l.any fun e => e.exito k

theorem spans_mensajes : spans siguiente (mensajes.map Prod.snd) = configuracion := rfl

theorem nodup_mensajes : (spans siguiente (mensajes.map Prod.snd)).Nodup := by
  rw [spans_mensajes]
  decide

theorem mem_entregas {exito : ℕ → Bool} {p : ℕ × UInt8 × List UInt8} (hp : p ∈ mensajes) :
    p.2 ∈ entregas exito ↔ exito p.1 = true := by
  have hinj : (mensajes.map fun p => p.2.1).Nodup := by decide
  rw [entregas, List.mem_flatMap]
  constructor
  · rintro ⟨q, hq, h⟩
    rw [entregado] at h
    split at h
    · rename_i hok
      have heq : p.2 = q.2 := List.mem_singleton.mp h
      rwa [List.inj_on_of_nodup_map hinj hp hq (congrArg Prod.fst heq)]
    · cases h
  · intro h
    refine ⟨p, hp, ?_⟩
    rw [entregado, if_pos h]
    exact List.mem_singleton_self p.2

theorem entregas_subset (exito : ℕ → Bool) {w : UInt8 × List UInt8} (hw : w ∈ entregas exito) :
    w ∈ mensajes.map Prod.snd := by
  obtain ⟨q, hq, h⟩ := List.mem_flatMap.mp hw
  rw [entregado] at h
  split at h
  · rw [List.mem_singleton.mp h]
    exact List.mem_map_of_mem hq
  · cases h

/-- A byte of a message is in its register once the message has got through. -/
theorem byte_tras_arranques (lib : Libm F) (b : Bus) (l : List (Arranque F))
    {p : ℕ × UInt8 × List UInt8} (hp : p ∈ mensajes) {i : ℕ} (hi : i < p.2.2.length) :
    (stateAfter (encender lib) b l).registros (siguiente^[i] p.2.1) =
      if llega l p.1 then p.2.2[i] else b.registros (siguiente^[i] p.2.1) := by
  have hmem : siguiente^[i] p.2.1 ∈ configuracion := by
    rw [← spans_mensajes, spans, List.mem_flatMap]
    exact ⟨p.2, List.mem_map_of_mem hp, iterate_mem_span siguiente hi⟩
  have htable := storeAll_table siguiente (m := b.registros)
    (l := l.flatMap fun e => entregas e.exito) nodup_mensajes ?_ (List.mem_map_of_mem hp) hi
  · have hllega : p.2 ∈ (l.flatMap fun e => entregas e.exito) ↔ llega l p.1 = true := by
      rw [List.mem_flatMap, llega, List.any_eq_true]
      exact exists_congr fun e => and_congr_right fun _ => mem_entregas hp
    rw [arranques_registros lib b l hmem]
    split
    · rename_i h
      exact htable.1 (hllega.mpr h)
    · rename_i h
      exact htable.2 fun hw => h (hllega.mp hw)
  · intro w hw
    obtain ⟨e, -, hw⟩ := List.mem_flatMap.mp hw
    exact entregas_subset e.exito hw

theorem palabra_ite (c : Bool) (x : Int16) (b0 b1 : UInt8) :
    palabra (if c then alto x else b0) (if c then bajo x else b1) =
      if c then x else palabra b0 b1 := by
  cases c with
  | true => exact palabra_eq_iff.mpr ⟨rfl, rfl⟩
  | false => rfl

theorem ventana_tras_arranques (lib : Libm F) (b : Bus) (l : List (Arranque F))
    {q : ℕ × UInt8 × Int16} (hq : q ∈ tablaOffsets) :
    ventana (stateAfter (encender lib) b l).registros q.2.1 =
      if llega l q.1 then q.2.2 else ventana b.registros q.2.1 := by
  have hp : (q.1, q.2.1, [alto q.2.2, bajo q.2.2]) ∈ mensajes :=
    List.mem_cons_of_mem _ (List.mem_cons_of_mem _
      (List.mem_map_of_mem (f := fun q => (q.1, q.2.1, [alto q.2.2, bajo q.2.2])) hq))
  have halto := byte_tras_arranques lib b l hp (i := 0) (Nat.succ_pos 1)
  have hbajo := byte_tras_arranques lib b l hp (i := 1) (Nat.lt_succ_self 1)
  exact (congrArg₂ palabra halto hbajo).trans (palabra_ite _ _ _ _)

/-- **The configuration over many starts.** Whatever the sensor held when it was switched
on, however it moves its other registers, and whichever transfers of however many starts of
the program fail: at any iteration of the loop of the last start the sensor is awake, has its
interrupt on, and has each of the six offsets, if one of the starts has got that message
through; and what none has got through is as it was. No offset is ever written by half. -/
theorem configuration_of_starts (lib : Libm F) (b : Bus) (l : List (Arranque F)) :
    let m := (stateAfter (encender lib) b l).registros
    m 0x6B = (if llega l 0 then 0x00 else b.registros 0x6B) ∧
      m 0x38 = (if llega l 3 then 0x01 else b.registros 0x38) ∧
      ∀ q ∈ tablaOffsets,
        ventana m q.2.1 = if llega l q.1 then q.2.2 else ventana b.registros q.2.1 := by
  intro m
  refine ⟨?_, ?_, fun q hq => ventana_tras_arranques lib b l hq⟩
  · exact byte_tras_arranques lib b l (p := (0, 0x6B, [0x00])) (by simp [mensajes])
      (i := 0) Nat.one_pos
  · exact byte_tras_arranques lib b l (p := (3, 0x38, [0x01])) (by simp [mensajes])
      (i := 0) Nat.one_pos

/-- A sensor that fills its status and measurement registers anew. -/
def muestreo (valor : UInt8) : Desvio where
  mover registros r := if 0x3A ≤ r ∧ r ≤ 0x48 then valor else registros r
  respeta registros r hr := by
    have hnot : ∀ r ∈ configuracion, ¬(0x3A ≤ r ∧ r ≤ 0x48) := by simp [configuracion]
    exact if_neg (hnot r hr)

/-- A start with one iteration, on such a sensor. -/
noncomputable def arranque (exito : ℕ → Bool) : Arranque ℝ :=
  { exito
    main := { desvio := fun i => muestreo (UInt8.ofNat i), pila := fun _ _ => 0,
              buffer := fun _ => 0 }
    crudo := ⟨fun _ => 0, fun _ => 0, 0⟩
    angXPrev := 0
    tiempoPrevio := 0
    vueltas := [{ desvio := muestreo 64, buffer := fun _ => 0, tiempoActual := 3000,
                  currentTime := 3100 }] }

/-- The message with Y of the gyroscope is lost, and nothing else. -/
theorem configuration_of_starts_one_lost :
    let m := (stateAfter (encender libmReal) (.sano (fun r => r) 0)
      [arranque fun k => k != 21]).registros
    m 0x6B = 0x00 ∧ m 0x38 = 0x01 ∧ ventana m 0x13 = -303 ∧ ventana m 0x15 = palabra 0x15 0x16 := by
  obtain ⟨hpower, hint, hoffsets⟩ := configuration_of_starts libmReal (.sano (fun r => r) 0)
    [arranque fun k => k != 21]
  exact ⟨hpower, hint, hoffsets (20, 0x13, -303) (by simp [tablaOffsets]),
    hoffsets (21, 0x15, 86) (by simp [tablaOffsets])⟩

/-- Neither of the two messages before `mostrar_offsets` addresses an offset. -/
theorem ventana_antes (m : UInt8 → UInt8) (c c' : Bool) {r : UInt8}
    (hr : r ∈ mostradas) :
    ventana (storeAll siguiente m (entregado c (0x6B, [0x00]) ++ entregado c' (0x38, [0x01]))) r =
      ventana m r := by
  have hkeep : ∀ r' ∉ [0x6B, 0x38], storeAll siguiente m
      (entregado c (0x6B, [0x00]) ++ entregado c' (0x38, [0x01])) r' = m r' := by
    intro r' hr'
    refine storeAll_of_not_mem siguiente fun hmem => hr' ?_
    cases c <;> cases c' <;> simp_all [entregado, spans, span]
  rcases mem_mostradas.mp hr with rfl | rfl | rfl | rfl | rfl | rfl <;>
    exact congrArg₂ palabra (hkeep _ (by decide)) (hkeep _ (by decide))

/-- What `mostrar_offsets` shows of the registers after any starts. -/
def mostrados (b : Bus) (l : List (Arranque F)) : Valores :=
  { gx := if llega l 20 then -303 else ventana b.registros 0x13
    gy := palabra (if llega l 20 then bajo (-303) else b.registros 0x14)
      (if llega l 21 then alto 86 else b.registros 0x15)
    gz := if llega l 21 then 86 else ventana b.registros 0x15
    ax := if llega l 23 then -1493 else ventana b.registros 0x06
    ay := if llega l 24 then 1868 else ventana b.registros 0x08
    az := if llega l 25 then 1243 else ventana b.registros 0x0A }

theorem ventanas_tras_arranques (lib : Libm F) (b : Bus) (l : List (Arranque F)) :
    let m := (stateAfter (encender lib) b l).registros
    ({ gx := ventana m 0x13, gy := ventana m 0x14, gz := ventana m 0x15, ax := ventana m 0x06,
       ay := ventana m 0x08, az := ventana m 0x0A } : Valores) = mostrados b l := by
  intro m
  have hgx : ventana m 0x13 = _ :=
    ventana_tras_arranques lib b l (q := (20, 0x13, -303)) (by simp [tablaOffsets])
  have hgz : ventana m 0x15 = _ :=
    ventana_tras_arranques lib b l (q := (21, 0x15, 86)) (by simp [tablaOffsets])
  have hax : ventana m 0x06 = _ :=
    ventana_tras_arranques lib b l (q := (23, 0x06, -1493)) (by simp [tablaOffsets])
  have hay : ventana m 0x08 = _ :=
    ventana_tras_arranques lib b l (q := (24, 0x08, 1868)) (by simp [tablaOffsets])
  have haz : ventana m 0x0A = _ :=
    ventana_tras_arranques lib b l (q := (25, 0x0A, 1243)) (by simp [tablaOffsets])
  -- 0x14 is the second register of X, 0x15 the first of Y
  have hx : m 0x14 = _ := byte_tras_arranques lib b l
    (p := (20, 0x13, [alto (-303), bajo (-303)])) (by simp [mensajes, tablaOffsets])
    (i := 1) (Nat.lt_succ_self 1)
  have hy : m 0x15 = _ := byte_tras_arranques lib b l (p := (21, 0x15, [alto 86, bajo 86]))
    (by simp [mensajes, tablaOffsets]) (i := 0) (Nat.succ_pos 1)
  have hgy : ventana m 0x14 = _ := congrArg₂ palabra hx hy
  rw [hgx, hgy, hgz, hax, hay, haz]
  rfl

theorem intEnable_antes (m : UInt8 → UInt8) (c : Bool) :
    storeAll siguiente m (entregado c (0x6B, [0x00])) 0x38 = m 0x38 := by
  refine storeAll_of_not_mem siguiente ?_
  cases c <;> decide

theorem intEnable_despues (m : UInt8 → UInt8) (c c' : Bool) :
    storeAll siguiente m (entregado c (0x6B, [0x00]) ++ entregado c' (0x38, [0x01])) 0x38 =
      if c' then 0x01 else m 0x38 := by
  cases c' with
  | true =>
    rw [storeAll_append]
    rfl
  | false =>
    have hnada : entregado false ((0x38, [0x01]) : UInt8 × List UInt8) = [] := rfl
    rw [hnada, List.append_nil, if_neg Bool.false_ne_true]
    exact intEnable_antes m c

/-- **What a start prints.** As far as its own reads succeed: `INT_ENABLE` before the write
as the earlier starts have left it and after the write with this start's own; and for the
offsets those that an earlier start got through, where the value printed as Y of the
gyroscope is made of the bytes of X and Y, and the one printed as Z is Y. -/
theorem start_reports (lib : Libm F) (b : Bus) (l : List (Arranque F)) (e : Arranque F) :
    let r := (encender lib (stateAfter (encender lib) b l) e).2
    (e.exito 1 = true ∧ e.exito 2 = true →
        r.antes = if llega l 3 then 0x01 else b.registros 0x38) ∧
      (e.exito 4 = true ∧ e.exito 5 = true →
        r.despues = if llega (l ++ [e]) 3 then 0x01 else b.registros 0x38) ∧
      ((∀ k, 8 ≤ k → k < 20 → e.exito k = true) → r.offsets = mostrados b l) := by
  intro r
  let m := (stateAfter (encender lib) b l).registros
  let b0 := e.bus (stateAfter (encender lib) b l)
  have hm : m 0x38 = if llega l 3 then 0x01 else b.registros 0x38 :=
    byte_tras_arranques lib b l (p := (3, 0x38, [0x01])) (by simp [mensajes]) (i := 0) Nat.one_pos
  have hantes := Tras.antes b0 e.main
  have hintEnable := (hantes.desvio (e.main.desvio 1)).escribir 0x38 [0x01]
  have hdespues := (hintEnable.desvio (e.main.desvio 2)).leerRegistro (e.main.pila 1) 0x38
  have hreadINT := (hdespues.desvio (e.main.desvio 3)).leerRegistro (e.main.pila 2) 0x3A
  refine ⟨?_, ?_, ?_⟩
  · rintro ⟨hselect, hread⟩
    refine (leerRegistro_valor ((Tras.reset b0).desvio _) hselect hread (by decide) _).trans ?_
    rw [intEnable_antes]
    exact hm
  · rintro ⟨hselect, hread⟩
    refine (leerRegistro_valor (hintEnable.desvio _) hselect hread (by decide) _).trans ?_
    have hllega : llega (l ++ [e]) 3 = (llega l 3 || b0.exito 3) := by
      simp [llega, b0, Arranque.bus]
    rw [intEnable_despues, hllega]
    cases b0.exito 3 with
    | true => rw [Bool.or_true, if_pos rfl, if_pos rfl]
    | false =>
      rw [Bool.or_false, if_neg Bool.false_ne_true]
      exact hm
  · intro hok
    refine (mostrarOffsets_valores (hreadINT.desvio _)
      (fun n hn => hok (8 + n) (by omega) (by omega)) _).trans ?_
    simp only [ventana_antes, mem_mostradas, true_or, or_true]
    exact ventanas_tras_arranques lib b l

/-- The second of two starts shows Y as -12032. -/
theorem start_reports_second :
    let r := (encender libmReal (stateAfter (encender libmReal) (.sano (fun r => r) 0)
      [arranque fun _ => true]) (arranque fun _ => true)).2
    r.antes = 0x01 ∧ r.despues = 0x01 ∧ r.offsets.gy = -12032 ∧ r.offsets.gz = 86 := by
  obtain ⟨hantes, hdespues, hoffsets⟩ := start_reports libmReal (.sano (fun r => r) 0)
    [arranque fun _ => true] (arranque fun _ => true)
  have hshown := hoffsets fun _ _ _ => rfl
  exact ⟨hantes ⟨rfl, rfl⟩, hdespues ⟨rfl, rfl⟩, congrArg Valores.gy hshown,
    congrArg Valores.gz hshown⟩

/-! ## The intervals -/

/-- **The intervals count from power-on.** `last_pulse_time` starts at the zero of the
counter, so the intervals of the first `n` iterations add up to the whole time since then,
less the full turns of the counter inside one of them. -/
theorem intervals_since_power_on (lib : Libm F) (bus : Bus) (crudo : Crudo) (angXPrev : F)
    (tiempoPrevio : UInt32) (ins : ℕ → EntradaVuelta) (t : ℕ → ℕ) (hzero : t 0 = 0)
    (hread : ∀ i, (ins i).currentTime = timeUs32 (t (i + 1))) (n : ℕ)
    (ht : ∀ i < n, t i ≤ t (i + 1)) :
    ∑ i ∈ Finset.range n,
        (outputAt (EstadoMain.paso lib) (.inicial bus crudo angXPrev tiempoPrevio) ins i).toNat +
      2 ^ 32 * ∑ i ∈ Finset.range n, (t (i + 1) - t i) / 2 ^ 32 = t n := by
  have hlast : ∀ i, (stateAt (EstadoMain.paso lib) (.inicial bus crudo angXPrev tiempoPrevio)
      ins i).lastPulseTime = timeUs32 (t i) := by
    refine stateAt_inv (P := fun i (s : EstadoMain F) => s.lastPulseTime = timeUs32 (t i)) ?_
      fun i _ _ => hread i
    rw [hzero]
    rfl
  have hdif : ∀ i < n, outputAt (EstadoMain.paso lib)
      (.inicial bus crudo angXPrev tiempoPrevio) ins i =
        timeUs32 (t (i + 1)) - timeUs32 (t i) := by
    intro i _
    rw [← hlast i, ← hread i]
    rfl
  have hall := elapsed_add_turns (w := 32) ht
  rw [sum_timeUs32 hdif]
  rw [hzero, Nat.add_zero, turns] at hall
  exact hall

end Starts

end PicoDrone.ConfigurationSoundness
