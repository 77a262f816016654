import PicoDrone.Firmware.Cgi
import PicoDrone.Library.Run

/-! # The LED and the requests of the network

The handler looks at the first parameter without asking how many there are, and
at its value without asking whether there is one. Requests that have both are
handled safely and leave the LED as the last command among them says; any other
request reads an entry the server has not filled, or compares NULL
(`remote_led_iff`). -/
namespace PicoDrone.CgiSoundness
open Library.CStrings Library.Run Library.Trace Firmware.Cgi

/-- No entry is read that the server has not filled, and NULL is not compared. -/
def Seguro (iNumParams : ℕ) : Suceso → Prop
  | .param i => i < iNumParams
  | .value i => i < iNumParams
  | .strcmp s => s ≠ none
  | .gpioPut _ => True

@[simp] theorem comparar_some (nulo : CString → ℤ) (s t : CString) :
    comparar nulo (some s) t = 0 ↔ s = t :=
  s.strcmp_eq_zero_iff t

theorem uno_ne_cero : uno ≠ cero := by decide

/-! ## The handler -/

section Handler

variable (nulo : CString → ℤ) (iIndex iNumParams : ℕ) (pcParam pcValue : ℕ → Puntero)

theorem handler_seguro_iff (k : ℕ) :
    (cgiLedHandler nulo iIndex iNumParams pcParam pcValue).All (Seguro k) ↔
      (0 < k ∧ pcParam 0 ≠ none) ∧ (comparar nulo (pcParam 0) led = 0 → pcValue 0 ≠ none) := by
  -- the value is read and compared a second time unless it is "0"
  have hevents : (cgiLedHandler nulo iIndex iNumParams pcParam pcValue).All (Seguro k) ↔
      0 < k ∧ pcParam 0 ≠ none ∧ (comparar nulo (pcParam 0) led = 0 →
        0 < k ∧ pcValue 0 ≠ none ∧
          (¬comparar nulo (pcValue 0) cero = 0 → 0 < k ∧ pcValue 0 ≠ none)) := by
    simp [cgiLedHandler, leerParam, leerValue, strcmp, cyw43ArchGpioPut, Seguro]
  rw [hevents]
  constructor
  · intro ⟨hk, hparam, hrest⟩
    exact ⟨⟨hk, hparam⟩, fun hled => (hrest hled).2.1⟩
  · intro ⟨⟨hk, hparam⟩, hvalue⟩
    exact ⟨hk, hparam, fun hled => ⟨hk, hvalue hled, fun _ => ⟨hk, hvalue hled⟩⟩⟩

theorem handler_fold (estado : Bool) :
    (cgiLedHandler nulo iIndex iNumParams pcParam pcValue).fold ledTras estado =
      if comparar nulo (pcParam 0) led = 0 then
        if comparar nulo (pcValue 0) cero = 0 then false
        else if comparar nulo (pcValue 0) uno = 0 then true
        else estado
      else estado := by
  simp [cgiLedHandler, leerParam, leerValue, strcmp, cyw43ArchGpioPut, ledTras]

end Handler

/-! ## One request -/

/-- There is a first parameter, and if it is named led it has a value. -/
def BienFormada : List Parametro → Prop
  | [] => False
  | p :: _ => p.nombre = led → p.valor ≠ none

/-- What a request asks of the LED, if its first parameter asks anything. -/
def orden : List Parametro → Option Bool
  | [] => none
  | p :: _ =>
    if p.nombre = led then
      if p.valor = some cero then some false
      else if p.valor = some uno then some true
      else none
    else none

section Request

variable (nulo : CString → ℤ) (estado : Bool) (r : Peticion)

theorem atender_segura_iff :
    (atender nulo estado r).2.All (Seguro r.params.length) ↔ BienFormada r.params := by
  obtain ⟨ps, restoParam, restoValue⟩ := r
  simp only [atender, handler_seguro_iff]
  cases ps with
  | nil => simp [BienFormada]
  | cons p ps => simp [BienFormada, Peticion.pcParam, Peticion.pcValue]

theorem atender_led (h : BienFormada r.params) :
    (atender nulo estado r).1 = (orden r.params).getD estado := by
  obtain ⟨ps, restoParam, restoValue⟩ := r
  simp only [atender, handler_fold]
  cases ps with
  | nil => exact h.elim
  | cons p ps =>
    obtain ⟨nombre, valor⟩ := p
    by_cases hled : nombre = led
    · cases valor with
      | none => exact absurd rfl (h hled)
      | some v =>
        simp only [Peticion.pcParam, Peticion.pcValue, orden, List.getElem?_cons_zero,
          comparar_some, hled, if_true, Option.some.injEq]
        by_cases h0 : v = cero
        · simp [h0]
        · by_cases h1 : v = uno
          · simp [h1, uno_ne_cero]
          · simp [h0, h1]
    · simp [Peticion.pcParam, orden, hled]

end Request

/-! ## Every sequence of requests -/

/-- **The LED is what the last command says, and safely so, exactly when every
request has a first parameter, with a value if it is named led.** What the
server left in the entries it has not filled, and what comparing NULL yields, is
arbitrary. -/
theorem remote_led_iff (nulo : CString → ℤ) (estado : Bool) (rs : ℕ → Peticion) (n : ℕ) :
    ((∀ i < n, (outputAt (atender nulo) estado rs i).All (Seguro (rs i).params.length)) ∧
      stateAt (atender nulo) estado rs n =
        ((List.range n).filterMap fun i => orden (rs i).params).getLast?.getD estado) ↔
      ∀ i < n, BienFormada (rs i).params := by
  constructor
  · intro ⟨hsafe, _⟩ i hi
    exact (atender_segura_iff nulo _ (rs i)).mp (hsafe i hi)
  · intro hform
    refine ⟨fun i hi => ?_, ?_⟩
    · exact (atender_segura_iff nulo _ (rs i)).mpr (hform i hi)
    · exact stateAt_overwrite fun i hi s => atender_led nulo s (rs i) (hform i hi)

/-- A request to a server that has filled no entry before. -/
def primera (params : List Parametro) : Peticion := ⟨params, fun _ => none, fun _ => none⟩

/-- Reached by `/led.cgi` and by `/led.cgi?led`. -/
theorem remote_led_unsafe :
    ¬(outputAt (atender fun _ => 1) false (fun _ => primera []) 0).All
        (Seguro (primera []).params.length) ∧
      ¬(outputAt (atender fun _ => 1) false (fun _ => primera [⟨led, none⟩]) 0).All
        (Seguro (primera [⟨led, none⟩]).params.length) := by
  constructor
  · intro hsafe
    have hread : 0 < 0 := hsafe (.param 0) (by decide)
    exact Nat.lt_irrefl 0 hread
  · intro hsafe
    have hnull : none ≠ none := hsafe (.strcmp none) (by decide)
    exact hnull rfl

end PicoDrone.CgiSoundness
