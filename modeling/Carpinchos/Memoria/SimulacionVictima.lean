import Carpinchos.Memoria.Simulacion

/-!
# Both machines choose the same victim

The lists of candidates have the same pages. Sorted by frame number they are the
candidates of the machine without TLB, and sorted by time stamp they are its order
of last use; the four passes of the module are the search of the clock.
-/

namespace Carpinchos.Memoria

open Outcome Bytes Replacement Estado

variable {E : Entorno} {s s' : Estado} {n : Nucleo} {pid : ℤ}

section Candidatos

theorem residentes_nodup {π : Parametros} (h : n.MarcosBien π) : (n.residentes π).Nodup :=
  List.nodup_range.filterMap fun _ _ p hp hp' => h.inj _ _ p hp hp'

theorem candidatos_nodup {π : Parametros} (h : n.MarcosBien π) : (n.candidatos π pid).Nodup := by
  unfold Nucleo.candidatos
  split
  · exact (residentes_nodup h).filter _
  · exact residentes_nodup h

theorem paginas_nodup (h : n.Tablas) : (n.procesos.flatMap fun c => c.paginas).Nodup := by
  rw [List.nodup_flatMap]
  refine ⟨fun c hc => h.paginas_nodup hc, ?_⟩
  have hpids : n.procesos.Pairwise fun c d => c.pid ≠ d.pid := List.pairwise_map.1 h.pids
  refine hpids.imp_of_mem fun {c d} hc hd hcd => ?_
  intro p hpc hpd
  exact hcd ((h.nombre_pid hc hpc).symm.trans (h.nombre_pid hd hpd))

theorem flatMap_paginas (h : Sim E s n) :
    (s.carpinchosList.flatMap fun c => c.paginas) = n.procesos.flatMap fun c => c.paginas := by
  rw [← h.carpinchos, List.flatMap_map]
  rfl

theorem getAllPagesInCache_perm (h : Sim E s n) (hb : n.Bien E.parametros) :
    ∃ l, getAllPagesInCache s = .ok l ∧ l.Perm (n.residentes E.parametros) := by
  have hmem : ∀ p, p ∈ (n.procesos.flatMap fun c => c.paginas) ↔ n.existe p := by
    intro p
    simp [Nucleo.existe]
  unfold getAllPagesInCache
  simp only [flatMap_paginas h, h.paginasLegibles fun q hq => (hmem q).1 hq, ok_bind]
  refine ⟨_, rfl, (List.perm_ext_iff_of_nodup ((paginas_nodup hb.tablas).filter _)
    (residentes_nodup hb.marcos)).2 fun p => ?_⟩
  rw [List.mem_filter, hmem, Nucleo.mem_residentes]
  constructor
  · rintro ⟨hp, hpres⟩
    obtain ⟨k, hk⟩ := (h.ubicadas p hp).presencia.1 hpres
    exact ⟨k, hb.marcos.lt k p hk, hk⟩
  · rintro ⟨k, -, hk⟩
    have hp := hb.marcos.existe k p hk
    exact ⟨hp, (h.ubicadas p hp).presencia.2 ⟨k, hk⟩⟩

theorem getPagesInCacheByCarpinchoPid_perm (h : Sim E s n) (hb : n.Bien E.parametros)
    (hpid : (n.proceso pid).isSome) :
    ∃ l, getPagesInCacheByCarpinchoPid pid s = .ok l ∧
      l.Perm ((n.residentes E.parametros).filter (n.esDe pid)) := by
  obtain ⟨c, hc⟩ : ∃ c, getCarpincho pid s = some c := by
    rw [← h.getCarpincho_proceso, Option.isSome_map] at hpid
    exact Option.isSome_iff_exists.1 hpid
  have hcmem := h.mem_carpinchos (List.mem_of_find?_eq_some hc)
  have hcpid : c.pid = pid := by simpa using List.find?_some hc
  have hex : ∀ q ∈ c.paginas, n.existe q := fun q hq => ⟨c.proceso, hcmem, hq⟩
  unfold getPagesInCacheByCarpinchoPid
  simp only [hc, h.paginasLegibles hex, ok_bind]
  refine ⟨_, rfl, (List.perm_ext_iff_of_nodup ((hb.tablas.paginas_nodup hcmem).filter _)
    ((residentes_nodup hb.marcos).filter _)).2 fun p => ?_⟩
  rw [List.mem_filter, List.mem_filter, Nucleo.mem_residentes]
  constructor
  · rintro ⟨hp, hcache⟩
    obtain ⟨k, hk⟩ := (h.paginaIsInCache_iff hb (hex p hp)).1 hcache
    refine ⟨⟨k, hb.marcos.lt k p hk, hk⟩, ?_⟩
    simpa [Nucleo.esDe, hcpid] using (hb.tablas.nombre_pid hcmem hp).trans hcpid
  · rintro ⟨⟨k, -, hk⟩, hde⟩
    obtain ⟨d, hd, hp⟩ := hb.marcos.existe k p hk
    have hdpid : d.pid = pid := by
      rw [← hb.tablas.nombre_pid hd hp]
      simpa [Nucleo.esDe] using hde
    obtain rfl : d = c.proceso :=
      List.inj_on_of_nodup_map hb.tablas.pids hd hcmem (hdpid.trans hcpid.symm)
    exact ⟨hp, (h.paginaIsInCache_iff hb (hex p hp)).2 ⟨k, hk⟩⟩

theorem paginasCandidatas_perm (h : Sim E s n) (hb : n.Bien E.parametros)
    (hpid : (n.proceso pid).isSome) :
    ∃ l, paginasCandidatas E pid s = .ok l ∧ l.Perm (n.candidatos E.parametros pid) := by
  unfold paginasCandidatas Nucleo.candidatos
  rw [show E.parametros.tipoAsignacion = E.config.tipoAsignacion from rfl]
  cases E.config.tipoAsignacion with
  | fija => exact getPagesInCacheByCarpinchoPid_perm h hb hpid
  | dinamica => exact getAllPagesInCache_perm h hb

theorem existe_of_candidato (hb : n.Bien E.parametros) {p : ℕ}
    (hp : p ∈ n.candidatos E.parametros pid) : n.existe p := by
  obtain ⟨k, -, hk⟩ := Nucleo.mem_residentes.1 (Nucleo.mem_residentes_of_candidato hp)
  exact hb.marcos.existe k p hk

theorem ordenarPor_eq {α : Type} {clave : α → ℤ} {l l' : List α} (hperm : l.Perm l')
    (hl' : l'.Pairwise fun a b => clave a < clave b) : ordenarPor E clave l = l' :=
  eq_of_perm_of_strict (E.listSort_sorted clave l) hl' ((E.listSort_perm _ l).trans hperm)

theorem candidatos_por_marco (h : Sim E s n) (hb : n.Bien E.parametros) :
    (n.candidatos E.parametros pid).Pairwise fun p q =>
      (s.descriptor p).marco < (s.descriptor q).marco := by
  have hres : (n.residentes E.parametros).Pairwise fun p q =>
      (s.descriptor p).marco < (s.descriptor q).marco := by
    rw [Nucleo.residentes, List.pairwise_filterMap]
    refine List.pairwise_lt_range.imp fun {j k} hjk p hp q hq => ?_
    rw [(h.ubicadas p (hb.marcos.existe j p hp)).marco j hp,
      (h.ubicadas q (hb.marcos.existe k q hq)).marco k hq]
    exact_mod_cast hjk
  unfold Nucleo.candidatos
  split
  · exact hres.filter _
  · exact hres

end Candidatos

section Lru

/-- Under LRU the stamps sort the candidates into their order of last use. -/
theorem candidatos_por_estampa (h : Sim E s n) (hb : n.Bien E.parametros)
    (ho : n.OrdenBien E.parametros) (hlru : E.config.algoritmoReemplazoMmu = .lru) {l : List ℕ}
    (hl : l.Perm (n.candidatos E.parametros pid)) :
    ordenarPor E (fun p => ((s.descriptor p).timestamp : ℤ)) l =
      n.orden.filter fun p => decide (p ∈ n.candidatos E.parametros pid) := by
  obtain ⟨hnodup, hmem⟩ := ho hlru
  refine ordenarPor_eq (hl.trans ((List.perm_ext_iff_of_nodup (candidatos_nodup hb.marcos)
    (hnodup.filter _)).2 fun p => ?_)) ?_
  · simp only [List.mem_filter, decide_eq_true_eq]
    exact ⟨fun hp => ⟨(hmem p).2 (Nucleo.mem_residentes_of_candidato hp), hp⟩, fun hp => hp.2⟩
  · exact ((h.estampas hlru).1.filter _).imp fun hpq => by exact_mod_cast hpq

end Lru

section MClock

def Estado.ponerUso (uso : ℕ → Bool) (s : Estado) : Estado :=
  { s with descriptor := fun q => { s.descriptor q with bitDeUso := uso q } }

theorem ponerUso_propio (s : Estado) :
    s.ponerUso (fun q => (s.descriptor q).bitDeUso) = s := rfl

theorem pasada_eq (edit limpia : Bool) (ps : List ℕ) (j : ℕ) (s : Estado) (uso : ℕ → Bool) :
    pasada edit limpia ps j (s.ponerUso uso) =
      ((sweep (fun q => (s.descriptor q).bitDeModificacion) edit limpia ps j uso).1,
        s.ponerUso
          (sweep (fun q => (s.descriptor q).bitDeModificacion) edit limpia ps j uso).2) := by
  induction ps generalizing j uso with
  | nil => rfl
  | cons p ps ih =>
    simp only [pasada, sweep]
    have hbits : ((s.ponerUso uso).descriptor p).bitDeUso = uso p ∧
        ((s.ponerUso uso).descriptor p).bitDeModificacion = (s.descriptor p).bitDeModificacion :=
      ⟨rfl, rfl⟩
    rw [hbits.1, hbits.2]
    split
    · rfl
    · cases limpia with
      | false => exact ih (j + 1) uso
      | true =>
        rw [← ih (j + 1)]
        congr 1
        simp only [setPagina, ponerUso, if_true]
        congr 1
        funext q
        by_cases hq : q = p
        · subst hq
          simp
        · simp [Function.update_of_ne hq]

theorem pasadas_eq (ps : List ℕ) (j : ℕ) (passes : List (Bool × Bool)) (s : Estado)
    (uso : ℕ → Bool) :
    pasadas ps j passes (s.ponerUso uso) =
      ((search (fun q => (s.descriptor q).bitDeModificacion) ps j passes uso).1,
        s.ponerUso (search (fun q => (s.descriptor q).bitDeModificacion) ps j passes uso).2) := by
  induction passes generalizing uso with
  | nil => rfl
  | cons pass rest ih =>
    obtain ⟨edit, limpia⟩ := pass
    simp only [pasadas, search, pasada_eq]
    split <;> rename_i heq <;> obtain ⟨h₁, h₂⟩ := Prod.mk.inj heq <;> subst h₂
    · rw [show sweep (fun q => (s.descriptor q).bitDeModificacion) edit limpia ps j uso =
        (some _, _) from Prod.ext h₁ rfl]
    · rw [show sweep (fun q => (s.descriptor q).bitDeModificacion) edit limpia ps j uso =
        (none, _) from Prod.ext h₁ rfl]
      exact ih _

/-- Only use bits and clock hands differ, and the bits only under M-CLOCK. -/
def SoloUso (E : Entorno) (s s' : Estado) : Prop :=
  ∀ q, (∃ b, s'.descriptor q = { s.descriptor q with bitDeUso := b }) ∧
    (E.parametros.algoritmoReemplazoMmu = .lru → s'.descriptor q = s.descriptor q)

theorem SoloUso.refl (s : Estado) : SoloUso E s s := fun _ => ⟨⟨_, rfl⟩, fun _ => rfl⟩

theorem Sim.ponerUso (h : Sim E s n) (hmclock : E.config.algoritmoReemplazoMmu = .mClock)
    {uso uso' : ℕ → Bool} (huso : ∀ p, n.existe p → uso p = uso' p) :
    Sim E (s.ponerUso uso) { n with uso := uso' } where
  cache := h.cache
  marcos := h.marcos
  carpinchos := h.carpinchos
  nombradas := fun p hp => ⟨(h.nombradas p hp).pid, (h.nombradas p hp).pagina,
    (h.nombradas p hp).viva, fun hlru => by cases hlru.symm.trans hmclock⟩
  bits := fun p hp hm => ⟨huso p hp, (h.bits p hp hm).2⟩
  ubicadas := fun p hp => ⟨(h.ubicadas p hp).presencia, (h.ubicadas p hp).marco,
    (h.ubicadas p hp).ausente⟩
  proximoPtr := h.proximoPtr
  mensajes := h.mensajes
  puntero := h.puntero
  ramas := h.ramas
  estampas := h.estampas
  tlb := ⟨h.tlb.bien, h.tlb.fifo⟩

theorem Sim.avanzarPuntero (h : Sim E s n) (j total : ℕ) :
    Sim E (avanzarPuntero E pid j total s) (n.ponerManecilla E.parametros pid j total) := by
  unfold Memoria.avanzarPuntero Nucleo.ponerManecilla
  rw [show E.parametros.tipoAsignacion = E.config.tipoAsignacion from rfl]
  generalize (if total ≤ j + 1 then 0 else j + 1) = posicion
  cases E.config.tipoAsignacion with
  | dinamica =>
    exact ⟨h.cache, h.marcos, h.carpinchos, h.nombradas, h.bits, h.ubicadas, h.proximoPtr,
      h.mensajes, rfl, h.ramas, h.estampas, ⟨h.tlb.bien, h.tlb.fifo⟩⟩
  | fija =>
    have hcarpinchos : (s.setCarpincho pid fun c =>
        { c with algoritmStackPointer := posicion }).carpinchosList.map Carpincho.proceso =
        (n.setProceso pid fun c => { c with puntero := posicion }).procesos := by
      simp only [setCarpincho, Nucleo.setProceso, ← h.carpinchos, List.map_map]
      refine List.map_congr_left fun c _ => ?_
      simp only [Function.comp_apply]
      by_cases hc : c.pid = pid <;> simp [hc, Carpincho.proceso]
    have hmap := Nucleo.map_setProceso (n := n) pid
      (f := fun c => { c with puntero := posicion }) fun _ => ⟨rfl, rfl⟩
    have hexiste : ∀ p, (n.setProceso pid fun c => { c with puntero := posicion }).existe p →
        n.existe p := fun p => (Nucleo.existe_of_map_eq hmap).1
    exact ⟨h.cache, h.marcos, hcarpinchos, fun p hp => h.nombradas p (hexiste p hp),
      fun p hp => h.bits p (hexiste p hp), fun p hp => h.ubicadas p (hexiste p hp),
      h.proximoPtr, h.mensajes, h.puntero, h.ramas, h.estampas, ⟨h.tlb.bien, h.tlb.fifo⟩⟩

theorem lastPointerPosition_eq (h : Sim E s n) (hb : n.Bien E.parametros) {page : ℕ}
    (hpage : page ∈ n.candidatos E.parametros pid) :
    lastPointerPosition E page s = n.manecilla E.parametros pid := by
  have hp := existe_of_candidato hb hpage
  unfold lastPointerPosition Nucleo.manecilla
  rw [show E.parametros.tipoAsignacion = E.config.tipoAsignacion from rfl]
  cases htipo : E.config.tipoAsignacion with
  | dinamica => rw [h.puntero]
  | fija =>
    have hpid : (s.descriptor page).carpinchoPid = pid := by
      rw [(h.nombradas page hp).pid]
      exact Nucleo.candidato_esDe htipo hpage
    rw [hpid, ← h.getCarpincho_proceso, Option.map_map]
    rfl

theorem avanzarPuntero_pid (h : Sim E s n) (hb : n.Bien E.parametros) {page : ℕ}
    (hpage : page ∈ n.candidatos E.parametros pid) (j total : ℕ) (s' : Estado) :
    avanzarPuntero E (s.descriptor page).carpinchoPid j total s' =
      avanzarPuntero E pid j total s' := by
  have hp := existe_of_candidato hb hpage
  unfold avanzarPuntero
  cases htipo : E.config.tipoAsignacion with
  | dinamica => rfl
  | fija =>
    have hpid : (s.descriptor page).carpinchoPid = pid := by
      rw [(h.nombradas page hp).pid]
      exact Nucleo.candidato_esDe htipo hpage
    rw [hpid]

theorem soloUso_avanzarPuntero (hmclock : E.config.algoritmoReemplazoMmu = .mClock)
    (uso : ℕ → Bool) (j total : ℕ) :
    SoloUso E s (avanzarPuntero E pid j total (s.ponerUso uso)) := by
  intro q
  refine ⟨⟨uso q, ?_⟩, fun hlru => by cases hlru.symm.trans hmclock⟩
  unfold avanzarPuntero
  cases E.config.tipoAsignacion <;> rfl

theorem elegirMClock_sim (h : Sim E s n) (hb : n.Bien E.parametros)
    (hmclock : E.config.algoritmoReemplazoMmu = .mClock) {l : List ℕ}
    (hl : l.Perm (n.candidatos E.parametros pid)) :
    Agree (getProximaASwampearByMClock E l s) (n.elegirMClock E.parametros pid)
      (fun r r' => r.1 = r'.1 ∧ Sim E r.2 r'.2 ∧ SoloUso E s r.2) (fun _ => False)
      (fun _ => False) := by
  have horden : ordenarPor E (fun p => (s.descriptor p).marco) l =
      n.candidatos E.parametros pid := ordenarPor_eq hl (candidatos_por_marco h hb)
  unfold getProximaASwampearByMClock Nucleo.elegirMClock
  rw [horden]
  cases hc : n.candidatos E.parametros pid with
  | nil => exact agree_error _ _
  | cons page resto =>
    have hpage : page ∈ n.candidatos E.parametros pid := hc ▸ List.mem_cons_self
    simp only [lastPointerPosition_eq h hb hpage, avanzarPuntero_pid h hb hpage, reduceCtorEq,
      if_false]
    cases hm : n.manecilla E.parametros pid with
    | none => exact agree_error _ _
    | some last =>
      have hA : ∀ p ∈ (page :: resto).drop last, n.existe p := fun p hp =>
        existe_of_candidato hb (hc ▸ List.mem_of_mem_drop hp)
      have hpasadas := pasadas_eq ((page :: resto).drop last) last cuatroPasadas s
        fun q => (s.descriptor q).bitDeUso
      obtain ⟨hvictima, huso⟩ := search_congr hA (fun p hp => (h.bits p hp hmclock).2) last
        cuatroPasadas fun p hp => (h.bits p hp hmclock).1
      rw [ponerUso_propio] at hpasadas
      simp only [hpasadas]
      generalize search (fun q => (s.descriptor q).bitDeModificacion)
        ((page :: resto).drop last) last cuatroPasadas (fun q => (s.descriptor q).bitDeUso) =
        r at hvictima huso
      generalize search n.modificada ((page :: resto).drop last) last cuatroPasadas n.uso =
        r' at hvictima huso
      obtain ⟨v, uso⟩ := r
      obtain ⟨v', uso'⟩ := r'
      obtain rfl : v = v' := hvictima
      cases v with
      | none => exact agree_error _ _
      | some vj =>
        exact ⟨rfl, (h.ponerUso hmclock huso).avanzarPuntero _ _,
          soloUso_avanzarPuntero hmclock _ _ _⟩

end MClock

/-- The victim of the module is the victim of the machine without TLB. -/
theorem elegir_sim (h : Sim E s n) (hb : n.Bien E.parametros) (ho : n.OrdenBien E.parametros)
    (hpid : (n.proceso pid).isSome) :
    Agree (elegirPaginaASwampear E pid s) (n.elegir E.parametros pid)
      (fun r r' => r.1 = r'.1 ∧ Sim E r.2 r'.2 ∧ SoloUso E s r.2) (fun _ => False)
      (fun _ => False) := by
  obtain ⟨l, hl, hperm⟩ := paginasCandidatas_perm h hb hpid
  unfold elegirPaginaASwampear Nucleo.elegir
  rw [hl, show E.parametros.algoritmoReemplazoMmu = E.config.algoritmoReemplazoMmu from rfl]
  simp only [ok_bind]
  cases hmmu : E.config.algoritmoReemplazoMmu with
  | mClock => exact elegirMClock_sim h hb hmmu hperm
  | lru =>
    simp only [getProximaASwampearByLru, Nucleo.elegirLru,
      candidatos_por_estampa h hb ho hmmu hperm]
    cases n.orden.filter fun p => decide (p ∈ n.candidatos E.parametros pid) with
    | nil => exact agree_error _ _
    | cons v vs => exact ⟨rfl, h, .refl s⟩

end Carpinchos.Memoria
