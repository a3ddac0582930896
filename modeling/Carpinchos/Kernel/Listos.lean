import Carpinchos.Kernel.Tablero

/-!
# The counter of READY

`cantidadCarpinchosEnReady` counts the carpinchos in READY, less the one for which the short
term planner has taken a unit without having chosen it. Under SJF a step keeps this unless
the planner finds `planificacion` other than 0, when it gives up its unit and takes nobody
out, or the detector of deadlocks puts a carpincho in READY without a post.
-/

namespace Carpinchos.Kernel

open Runs

namespace Tablero

def tomadas (s : Tablero) : ℕ := if s.corto = .esperandoPlanificar then 1 else 0

/-- Every carpincho in READY has its unit. -/
def Contado (s : Tablero) : Prop := s.listos.length = s.cantidad + s.tomadas

section Contado

variable {s s' : Tablero}

theorem Contado.cantidad_eq (h : s.Contado) (hcorto : s.corto ≠ .esperandoPlanificar) :
    s.cantidad = s.listos.length := by
  have htomadas : s.tomadas = 0 := if_neg hcorto
  rw [Contado, htomadas, Nat.add_zero] at h
  exact h.symm

theorem Contado.congr (h : s.Contado) (hlistos : s'.listos = s.listos)
    (hcantidad : s'.cantidad = s.cantidad) (hcorto : s'.corto = s.corto) : s'.Contado := by
  unfold Contado tomadas at h ⊢
  rw [hlistos, hcantidad, hcorto, h]

theorem Contado.ingreso (h : s.Contado) {p : ℕ} (hlistos : s'.listos = s.listos ++ [p])
    (hcantidad : s'.cantidad = s.cantidad + 1) (hcorto : s'.corto = s.corto) : s'.Contado := by
  unfold Contado tomadas at h ⊢
  rw [hlistos, hcantidad, hcorto, List.length_append, List.length_singleton, h]
  omega

theorem Despierta.contado (h : s.Despierta s') (hs : s.Contado) : s'.Contado := by
  cases h with
  | nadie => exact hs
  | bloqueado j p f hj hf => exact hs.ingreso rfl rfl rfl
  | suspendido i hi => exact hs.congr rfl rfl rfl

end Contado

end Tablero

namespace Estado

/-- The short term planner does not find `planificacion` changed, and the detector finds
nobody to put in READY. -/
def unidadSegura (k : Estado) : Turno → Bool
  | .hilo (.cortoPlazo _) => k.cortoPlazo = .esperandoPlanificar → k.planificacion = 0
  | .reposicion pid => !k.processBlocked.any (k.tienePid pid)
  | _ => true

variable {cfg : Config} {k k' : Estado} {m : Turno} {ps : List ℕ} {s : Tablero}

/-- A step whose result has the count, and which is safe. -/
theorem contado_iff_segura (hs : s.Contado) (hm : k.unidadSegura m = true) :
    s.Contado ↔ k.unidadSegura m = true := iff_of_true hs hm

theorem unidadSegura_of_puedeQuedar (h : k.puedeQuedar m = true) : k.unidadSegura m = true := by
  unfold puedeQuedar at h
  unfold unidadSegura
  split <;> simp_all

/-- Under SJF the safe steps, and no others, keep the count. -/
theorem jugada_contado (h : Jugada cfg k m ps s) (hsjf : cfg.algoritmoPlanificacion = .sjf)
    (hk : k.tablero.Contado) : s.Contado ↔ k.unidadSegura m = true := by
  have hcuenta : k.processReady.length = k.cantidadCarpinchosEnReady + k.tablero.tomadas := hk
  cases h with
  | quieta hm => exact contado_iff_segura hk (unidadSegura_of_puedeQuedar hm)
  | llegada pid => exact contado_iff_segura (hk.congr rfl rfl rfl) rfl
  | admision p n ps =>
    exact contado_iff_segura (hk.ingreso rfl rfl rfl) rfl
  | espera i n hcorto hcantidad =>
    have htomadas : k.tablero.tomadas = 0 := if_neg (by rw [tablero, hcorto]; simp)
    refine contado_iff_segura ?_ (by simp [unidadSegura, hcorto])
    show k.processReady.length = n + 1
    omega
  | eleccion i p f halg hcorto hcero hp hf =>
    have htomadas : k.tablero.tomadas = 1 := if_pos hcorto
    have hi := (List.getElem?_eq_some_iff.1 hp).1
    refine contado_iff_segura ?_ (by simp [unidadSegura, hcero])
    show (k.processReady.eraseIdx i).length = k.cantidadCarpinchosEnReady + 0
    rw [List.length_eraseIdx_of_lt hi]
    omega
  | salto i halg hcorto hcero =>
    have htomadas : k.tablero.tomadas = 1 := if_pos hcorto
    refine iff_of_false (fun hs => ?_) (by simp [unidadSegura, hcorto, hcero])
    have hs' : k.processReady.length = k.cantidadCarpinchosEnReady + 0 := hs
    omega
  | asignacion i p c halg hcorto hc hlibre =>
    have htomadas : k.tablero.tomadas = 0 := if_neg (by rw [tablero, hcorto]; simp)
    refine contado_iff_segura ?_ (by simp [unidadSegura, hcorto])
    show k.processReady.length = k.cantidadCarpinchosEnReady + 0
    omega
  | perdida p hcorto =>
    have htomadas : k.tablero.tomadas = 0 := if_neg (by rw [tablero, hcorto]; simp)
    refine contado_iff_segura ?_ rfl
    show k.processReady.length = k.cantidadCarpinchosEnReady + 0
    omega
  | ratio i p f halg => rw [hsjf] at halg; cases halg
  | suspension p => exact contado_iff_segura (hk.congr rfl rfl rfl) rfl
  | finIo h => exact contado_iff_segura (h.contado hk) rfl
  | liberacion p ps f => exact contado_iff_segura (hk.congr rfl rfl rfl) rfl
  | reposicion pid elegidos resto hel hpid hperm =>
    refine iff_of_false (fun hs => ?_) (by simp [unidadSegura, hpid])
    have hs' : (k.processReady ++ elegidos).length =
      k.cantidadCarpinchosEnReady + k.tablero.tomadas := hs
    have hlargo := List.length_pos_of_ne_nil hel
    rw [List.length_append] at hs'
    omega
  | terminacion pid elegidos resto =>
    exact contado_iff_segura (hk.congr rfl rfl rfl) rfl
  | fin c n hetapa hn h =>
    exact contado_iff_segura ((h.contado hk).congr rfl rfl rfl) rfl
  | bloqueoWait c | bloqueoIo c | comienzo c | escucha c | hallaIo c | respuestaIo c
  | limpiezaIo c | suelta c =>
    exact contado_iff_segura (hk.congr rfl rfl rfl) rfl
  | memoria c | pedidoIo c | pedidoWait c | pedidoSemaforo c | respuestaSemaforo c
  | finalizacion c => exact contado_iff_segura (hk.congr rfl rfl rfl) rfl

theorem inicial_contado (cfg : Config) : (inicial cfg).tablero.Contado := rfl

/-- Under SJF, in every run of safe steps the counter of READY is the number of carpinchos in
it between two choices of the planner, and of the steps that can follow exactly the safe ones
keep the count. -/
theorem listos_contados (cfg : Config) (hsjf : cfg.algoritmoPlanificacion = .sjf)
    {ms : List Turno} {k : Estado}
    (h : Reaches (pasoTurno cfg) (fun k m => k.unidadSegura m = true) (inicial cfg) ms k) :
    (k.cortoPlazo ≠ .esperandoPlanificar →
      k.cantidadCarpinchosEnReady = k.processReady.length) ∧
    ∀ m o k', pasoTurno cfg m k = .ok (o, k') →
      (k'.tablero.Contado ↔ k.unidadSegura m = true) := by
  have hcontado : k.tablero.Contado := by
    have hpasos : ∀ k m o k', k.tablero.Contado → k.unidadSegura m = true →
        pasoTurno cfg m k = .ok (o, k') → k'.tablero.Contado := fun k m o k' hk hm hpaso =>
      (jugada_contado (pasoTurno_jugada hpaso) hsjf hk).2 hm
    exact h.invariant hpasos (inicial_contado cfg)
  refine ⟨hcontado.cantidad_eq, fun m o k' hpaso => ?_⟩
  exact jugada_contado (pasoTurno_jugada hpaso) hsjf hcontado

section Corridas

def hilos (eventos : List Evento) : List Turno := eventos.map .hilo

/-- The first carpincho is chosen before the long term planner looks at READY, which it finds
empty; a second one arrives before the planner lowers `planificacion`. -/
def listoOlvidado : List Turno :=
  hilos ([.llegada 1, .largoPlazo, .largoPlazo, .cortoPlazo 0, .cortoPlazo 0, .largoPlazo,
    .llegada 2] ++ List.replicate 3 .largoPlazo ++ List.replicate 3 (.cortoPlazo 0))

/-- The short term planner gives up a unit without choosing, and the second carpincho stays
in READY with the counter at 0. -/
theorem listo_sin_unidad :
    ¬ ∀ (cfg : Config) (ms : List Turno) (k : Estado), cfg.algoritmoPlanificacion = .sjf →
      Reaches (pasoTurno cfg) (fun _ _ => True) (inicial cfg) ms k →
      k.cortoPlazo ≠ .esperandoPlanificar →
      k.cantidadCarpinchosEnReady = k.processReady.length := by
  intro h
  have hcorrida : (guardedRun (pasoTurno configUnaCpu) (fun _ _ => true) listoOlvidado
      (inicial configUnaCpu)).any (fun k => k.cortoPlazo = .esperandoListo ∧
        k.cantidadCarpinchosEnReady = 0 ∧ k.processReady = [1]) = true := by
    decide +kernel
  obtain ⟨k, hk, hfin⟩ := (Option.any_eq_true _ _).1 hcorrida
  obtain ⟨hcorto, hcantidad, hready⟩ := of_decide_eq_true hfin
  have hlargo := h configUnaCpu listoOlvidado k rfl
    ((reaches_of_guardedRun hk).mono fun _ _ _ => trivial) (by rw [hcorto]; decide)
  rw [hcantidad, hready] at hlargo
  cases hlargo

/-- Two carpinchos arrive and the first one is dispatched. -/
theorem listos_contados_dos :
    ∃ k, Reaches (pasoTurno configUnaCpu) (fun k m => k.unidadSegura m = true)
      (inicial configUnaCpu)
      (hilos (despachar 1 ++ [.llegada 2, .largoPlazo, .largoPlazo])) k ∧
      k.processReady = [1] ∧ k.cantidadCarpinchosEnReady = k.processReady.length := by
  have hcorrida : (guardedRun (pasoTurno configUnaCpu) unidadSegura
      (hilos (despachar 1 ++ [.llegada 2, .largoPlazo, .largoPlazo]))
      (inicial configUnaCpu)).any (fun k => k.cortoPlazo = .esperandoListo ∧
        k.processReady = [1]) = true := by
    decide +kernel
  obtain ⟨k, hk, hfin⟩ := (Option.any_eq_true _ _).1 hcorrida
  obtain ⟨hcorto, hready⟩ := of_decide_eq_true hfin
  have hreaches := reaches_of_guardedRun hk
  refine ⟨k, hreaches, hready, ?_⟩
  exact (listos_contados configUnaCpu rfl hreaches).1 (by rw [hcorto]; decide)

end Corridas

end Estado

end Carpinchos.Kernel
