import Carpinchos.Memoria.Coherencia

/-!
# The TLB is transparent

Two runs of the same calls that differ in the configuration of the TLB represent one
and the same run of the machine without TLB. They return the same results and leave
the same memory; only the TLB, its counts and the absolute time stamps may differ.
-/

namespace Carpinchos.Memoria

open Outcome Estado Runs

variable {E E' : Entorno} {s s' : Estado} {n : Nucleo}

/-- Two descriptors that differ at most in their time stamps. -/
structure MismaPagina (q q' : Pagina) : Prop where
  pid : q.carpinchoPid = q'.carpinchoPid
  pagina : q.pagina = q'.pagina
  presencia : q.bitPresencia = q'.bitPresencia
  marco : q.marco = q'.marco
  uso : q.bitDeUso = q'.bitDeUso
  modificada : q.bitDeModificacion = q'.bitDeModificacion

/-- Two states that differ at most in the TLB, its counts and the time stamps. -/
structure MismaMemoria (s s' : Estado) : Prop where
  cache : s.cache = s'.cache
  marcosList : s.marcosList = s'.marcosList
  mensajes : s.mensajes = s'.mensajes
  carpinchos : s.carpinchosList.map Carpincho.proceso = s'.carpinchosList.map Carpincho.proceso
  puntero : s.algoritmStackPointer = s'.algoritmStackPointer
  paginas : ∀ p, existePagina p s → MismaPagina (s.descriptor p) (s'.descriptor p)

theorem Ubicada.misma {marcos : ℕ → Option ℕ} {p : ℕ} {q q' : Pagina} (h : Ubicada marcos p q)
    (h' : Ubicada marcos p q') : q.bitPresencia = q'.bitPresencia ∧ q.marco = q'.marco := by
  refine ⟨Bool.eq_iff_iff.2 (h.presencia.trans h'.presencia.symm), ?_⟩
  by_cases hk : ∃ k, marcos k = some p
  · obtain ⟨k, hk⟩ := hk
    rw [h.marco k hk, h'.marco k hk]
  · have hfuera : ∀ k, marcos k ≠ some p := fun k hk' => hk ⟨k, hk'⟩
    rw [h.ausente hfuera, h'.ausente hfuera]

theorem Representa.mismaPagina (hπ : E.parametros = E'.parametros) (h : Representa E s n)
    (h' : Representa E' s' n) {p : ℕ} (hp : n.existe p) :
    MismaPagina (s.descriptor p) (s'.descriptor p) := by
  have hn := h.sim.nombradas p hp
  have hn' := h'.sim.nombradas p hp
  have hbits := h.sim.bits p hp
  have hbits' := h'.sim.bits p hp
  obtain ⟨hpresencia, hmarco⟩ := (h.sim.ubicadas p hp).misma (h'.sim.ubicadas p hp)
  have huso : (s.descriptor p).bitDeUso = (s'.descriptor p).bitDeUso ∧
      (s.descriptor p).bitDeModificacion = (s'.descriptor p).bitDeModificacion := by
    cases hmmu : E.parametros.algoritmoReemplazoMmu with
    | mClock =>
      have hmmu' := hπ ▸ hmmu
      rw [(hbits hmmu).1, (hbits hmmu).2, (hbits' hmmu').1, (hbits' hmmu').2]
      exact ⟨rfl, rfl⟩
    | lru =>
      have hmmu' := hπ ▸ hmmu
      rw [(hn.limpia hmmu).1, (hn.limpia hmmu).2, (hn'.limpia hmmu').1, (hn'.limpia hmmu').2]
      exact ⟨rfl, rfl⟩
  exact ⟨hn.pid.trans hn'.pid.symm, hn.pagina.trans hn'.pagina.symm, hpresencia, hmarco, huso.1,
    huso.2⟩

theorem Representa.mismaMemoria (hπ : E.parametros = E'.parametros) (h : Representa E s n)
    (h' : Representa E' s' n) : MismaMemoria s s' where
  cache := h.sim.cache.trans h'.sim.cache.symm
  marcosList := by
    have hN : E.config.cantidadMarcos = E'.config.cantidadMarcos :=
      congrArg Parametros.cantidadMarcos hπ
    rw [h.sim.marcos, h'.sim.marcos, hN]
  mensajes := h.sim.mensajes.trans h'.sim.mensajes.symm
  carpinchos := h.sim.carpinchos.trans h'.sim.carpinchos.symm
  puntero := h.sim.puntero.trans h'.sim.puntero.symm
  paginas := fun _ hp => h.mismaPagina hπ h' (h.sim.existe_iff.1 hp)

end Carpinchos.Memoria
