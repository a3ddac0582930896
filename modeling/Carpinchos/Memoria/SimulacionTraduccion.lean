import Carpinchos.Memoria.SimulacionAcceso

/-!
# Translation and access agree with the machine without TLB

A page is translated through the TLB, through the frame table or by a page fault.
On each of the three ways the module finds the frame that the machine without TLB
finds, and afterwards the TLB has an entry for the page.
-/

namespace Carpinchos.Memoria

open Outcome Bytes Replacement Estado

variable {E : Entorno} {s s' : Estado} {n n' : Nucleo} {p k : ℕ}

section Ubicar

/-- The relation that leaves out where `p` is survives a write to the descriptor of `p`
that respects its name, its bits and its stamp. -/
theorem SimSalvo.setPagina (h : SimSalvo E p s n) {f : Pagina → Pagina}
    (hnombrada : Nombrada E.parametros (n.nombre p) (f (s.descriptor p)))
    (hbits : n.existe p → Bits E.parametros (n.uso p) (n.modificada p) (f (s.descriptor p)))
    (hestampas : Estampas E.parametros (s.setPagina p f).descriptor s.contadorTimestamp n.orden) :
    SimSalvo E p (s.setPagina p f) n := by
  have hself : (s.setPagina p f).descriptor p = f (s.descriptor p) := Function.update_self _ _ _
  have hne : ∀ q, q ≠ p → (s.setPagina p f).descriptor q = s.descriptor q :=
    fun q hq => Function.update_of_ne hq _ _
  refine ⟨h.cache, h.marcos, h.carpinchos, ?_, ?_, ?_, h.proximoPtr, h.mensajes, h.puntero, h.ramas,
    hestampas, ⟨h.tlb.bien, h.tlb.fifo⟩⟩
  · intro q hq
    rcases eq_or_ne q p with rfl | hqp
    · rw [hself]
      exact hnombrada
    · rw [hne q hqp]
      exact h.nombradas q hq
  · intro q hq
    rcases eq_or_ne q p with rfl | hqp
    · rw [hself]
      exact hbits hq
    · rw [hne q hqp]
      exact h.bits q hq
  · intro q hq hqp
    rw [hne q hqp]
    exact h.ubicadas q hq hqp

/-- Writing where a page is, in its own descriptor. -/
structure SoloUbica (q q' : Pagina) : Prop where
  pid : q'.carpinchoPid = q.carpinchoPid
  pagina : q'.pagina = q.pagina
  viva : q'.liberada = q.liberada
  uso : q'.bitDeUso = q.bitDeUso
  modificada : q'.bitDeModificacion = q.bitDeModificacion
  timestamp : q'.timestamp = q.timestamp

theorem SimSalvo.setUbicacion (h : SimSalvo E p s n) {f : Pagina → Pagina}
    (hf : SoloUbica (s.descriptor p) (f (s.descriptor p))) : SimSalvo E p (s.setPagina p f) n := by
  have hn := h.nombradas p (Or.inr rfl)
  refine h.setPagina ⟨hf.pid.trans hn.pid, hf.pagina.trans hn.pagina, hf.viva.trans hn.viva,
      fun hlru => hf.uso ▸ hf.modificada ▸ hn.limpia hlru⟩
    (fun hp hm => ?_) fun hlru => ?_
  · rw [hf.uso, hf.modificada]
    exact h.bits p hp hm
  · have hts : ∀ q, ((s.setPagina p f).descriptor q).timestamp = (s.descriptor q).timestamp := by
      intro q
      rcases eq_or_ne q p with rfl | hq
      · simpa only [Estado.setPagina, Function.update_self] using hf.timestamp
      · simp only [Estado.setPagina, Function.update_of_ne hq]
    simp only [hts]
    exact h.estampas hlru

/-- Once `p` is where its descriptor says, the states are related. -/
theorem SimSalvo.sim (h : SimSalvo E p s n) (hu : Ubicada n.marcos p (s.descriptor p)) :
    Sim E s n where
  cache := h.cache
  marcos := h.marcos
  carpinchos := h.carpinchos
  nombradas := fun q hq => h.nombradas q (Or.inl hq)
  bits := h.bits
  ubicadas := fun q hq => by
    rcases eq_or_ne q p with rfl | hqp
    · exact hu
    · exact h.ubicadas q hq hqp
  proximoPtr := h.proximoPtr
  mensajes := h.mensajes
  puntero := h.puntero
  ramas := h.ramas
  estampas := h.estampas
  tlb := h.tlb

theorem ubicada_of (hk : n.marcos k = some p) (hinj : ∀ j, n.marcos j = some p → j = k)
    {q : Pagina} (hpresencia : q.bitPresencia = true) (hmarco : q.marco = k) :
    Ubicada n.marcos p q :=
  ⟨iff_of_true hpresencia ⟨k, hk⟩, fun j hj => by rw [hmarco, hinj j hj],
    fun hfuera => absurd hk (hfuera k)⟩

end Ubicar

section Traduccion

theorem SimSalvo.enMarco (h : SimSalvo E p s n) (hk : n.marcos k = some p)
    (hlt : k < E.config.cantidadMarcos) : EnMarco p k s := by
  have hn := h.nombradas p (Or.inr rfl)
  refine ⟨marcoReal n.nombre k (n.marcos k), h.marcos ▸ mem_tabla.2 ⟨k, hlt, rfl⟩,
    marcoReal_marco k _, ?_, ?_⟩
  · rw [hk, hn.pid]
    rfl
  · rw [hk, hn.pagina]
    rfl

theorem actualizarTlb_sim (h : Alojamiento E p s n k) (hlt : k < E.config.cantidadMarcos)
    (hpid : (n.nombre p).1 ≠ 0) :
    Spec (actualizarTlb E p k s)
      (fun s' => SimSalvo E p s' n ∧ paginaIsInTlb p s' = true ∧ s'.descriptor = s.descriptor)
      EsDesbordamiento := by
  have hk : (k : ℤ) ≠ -1 := by omega
  have hpid' : (s.descriptor p).carpinchoPid ≠ 0 := by
    rw [(h.sim.nombradas p (Or.inr rfl)).pid]
    exact hpid
  refine (actualizarTlb_spec h.sim.tlb hk hpid' (h.sim.enMarco h.marco hlt) h.libre).mono
    (fun s' hs' => ?_) fun _ he => he
  exact ⟨h.sim.of_soloTlb hs'.1 hs'.2.1, hs'.2.2, hs'.1.descriptor⟩

theorem Sim.sin_entrada (h : Sim E s n) (hb : n.Bien E.parametros) (hk : n.marcos k = some p)
    (hno : ¬ paginaIsInTlb p s = true) : ∀ t ∈ s.tlbList, t.marco ≠ k := by
  intro t ht hmarco
  have hpid : t.pid ≠ 0 := by
    intro h0
    have := (h.tlb.bien.vacia t ht h0).2
    omega
  obtain ⟨m, hm, hmk, hmpid, hmpag⟩ := h.tlb.bien.marco t ht hpid
  rw [h.marcos] at hm
  obtain ⟨j, -, rfl⟩ := mem_tabla.1 hm
  rw [marcoReal_marco, hmarco, Nat.cast_inj] at hmk
  subst hmk
  have hes := (h.esMarcoDe_iff hb (hb.marcos.existe _ _ hk) j).2 hk
  simp only [esMarcoDe, decide_eq_true_eq] at hes
  exact hno (paginaIsInTlb_iff.2 ⟨t, ht, hmpid.symm.trans hes.1, hmpag.symm.trans hes.2⟩)

theorem getMarcoDeTlb_eq (h : Sim E s n) (hb : n.Bien E.parametros) (hk : n.marcos k = some p)
    (htlb : paginaIsInTlb p s = true) (obtenerMarco : ℕ → Estado → Except Falla (ℤ × Estado)) :
    getMarcoDeTlb obtenerMarco p s = .ok ((k : ℤ), s) := by
  have hp := hb.marcos.existe k p hk
  obtain ⟨t, ht, hmem, hpid, hpag⟩ := getTlbItem_some htlb
  obtain ⟨j, hj, hjp⟩ := h.tlb_marco hb hp hmem hpid hpag
  obtain rfl := hb.marcos.inj j k p hjp hk
  have hmarco := getMarcoByMarcoNumber_tabla h.marcos (hb.marcos.lt j p hk)
  simp only [getMarcoDeTlb, htlb, if_true, ht, hj, hmarco, (h.esMarcoDe_iff hb hp j).2 hk]

/-- The page has been translated to frame `k`. -/
structure Traducida (E : Entorno) (p : ℕ) (s : Estado) (n : Nucleo) (k : ℕ) : Prop where
  sim : SimSalvo E p s n
  marco : n.marcos k = some p
  enTlb : paginaIsInTlb p s = true

theorem obtenerMarcoSinTlb_sim (h : Sim E s n) (hb : n.Bien E.parametros)
    (ho : n.OrdenBien E.parametros) (hp : n.existe p) (hno : ¬ paginaIsInTlb p s = true) :
    Agree (obtenerMarcoSinTlb E p s) (n.traer E.parametros p)
      (fun r r' => r.1 = r'.1 ∧ Alojamiento E p r.2 r'.2 r'.1) EsDesbordamiento EsRechazo := by
  have hcarpincho := h.getCarpincho_isSome hb hp
  have hp' := h.nombradas p hp
  unfold obtenerMarcoSinTlb Nucleo.traer
  cases hk : n.marcoDe E.parametros p with
  | some k =>
    have hkp := (Nucleo.marcoDe_some hk).2
    rw [if_pos ((h.paginaIsInCache_iff hb hp).2 ⟨k, hkp⟩)]
    refine Agree.bind_left (tlbMiss_spec hcarpincho) fun s₁ hs₁ => ?_
    have hsim := h.of_soloTlb hs₁.solo (h.tlb.of_conteos hs₁)
    refine ⟨hsim.obtenerMarcoDeCache_eq hb hkp, hsim.salvo (hsim.nombradas p hp), hkp, ?_⟩
    rw [hs₁.tlbList]
    exact h.sin_entrada hb hkp hno
  | none =>
    have hfuera : ∀ j, n.marcos j ≠ some p :=
      fun j hj => Nucleo.marcoDe_eq_none.1 hk j (hb.marcos.lt j p hj) hj
    rw [if_neg (mt (h.paginaIsInCache_iff hb hp).1 (by simpa using hfuera))]
    refine Agree.bind_left (tlbHit_spec hcarpincho) fun s₁ hs₁ => ?_
    have hsim := h.of_soloTlb hs₁.solo (h.tlb.of_conteos hs₁)
    rw [hs₁.solo.descriptor, hp'.pid, hp'.pagina]
    exact (swampearPagina_sim hsim hb ho hp hfuera).excuse (fun _ he => he.elim) fun _ he => he

theorem obtenerMarcoParaPagina_sim (h : Sim E s n) (hb : n.Bien E.parametros)
    (ho : n.OrdenBien E.parametros) (hp : n.existe p) (fuel : ℕ) :
    Agree (obtenerMarcoParaPagina E (fuel + 1) p s) (n.traer E.parametros p)
      (fun r r' => r.1 = r'.1 ∧ Traducida E p r.2 r'.2 r'.1) EsDesbordamiento EsRechazo := by
  have hcarpincho := h.getCarpincho_isSome hb hp
  rw [obtenerMarcoParaPagina]
  by_cases htlb : paginaIsInTlb p s = true
  · obtain ⟨k, hk⟩ := h.marco_of_tlb hb hp htlb
    rw [if_pos htlb, Nucleo.traer, hb.marcos.marcoDe_eq hk]
    refine Agree.bind_left (tlbHit_spec hcarpincho) fun s₁ hs₁ => ?_
    have hsim := h.of_soloTlb hs₁.solo (h.tlb.of_conteos hs₁)
    have htlb₁ : paginaIsInTlb p s₁ = true := by
      rw [paginaIsInTlb, hs₁.tlbList, esEntradaDe_congr hs₁.solo.descriptor]
      exact htlb
    rw [getMarcoDeTlb_eq hsim hb hk htlb₁, ok_bind]
    refine Agree.bind_left (refrescarTlb_spec hsim.tlb htlb₁) fun s₂ hs₂ => ?_
    have hsim₂ := hsim.of_soloTlb hs₂.1 hs₂.2.1
    exact ⟨rfl, hsim₂.salvo (hsim₂.nombradas p hp), hk, hs₂.2.2⟩
  · rw [if_neg htlb]
    have htraer := (obtenerMarcoSinTlb_sim h hb ho hp htlb).and_right (Nucleo.traer_spec hb ho hp)
    rw [← bind_pure (n.traer E.parametros p)]
    refine htraer.bind fun r r' hr => ?_
    obtain ⟨marco, s₁⟩ := r
    obtain ⟨k, n₁⟩ := r'
    obtain ⟨⟨rfl, haloj⟩, htraida⟩ := hr
    have hpid : (n₁.nombre p).1 ≠ 0 := by
      rw [show n₁.nombre = n.nombre from htraida.paginas.nombre]
      exact hb.tablas.nombre_ne hp
    refine Agree.bind_left (actualizarTlb_sim haloj (htraida.bien.marcos.lt k p haloj.marco) hpid)
      fun s₂ hs₂ => ?_
    exact ⟨rfl, hs₂.1, haloj.marco, hs₂.2.1⟩

theorem Traducida.ubicar (h : Traducida E p s n k) (hb : n.Bien E.parametros) :
    Sim E ((s.setPagina p fun q => { q with marco := (k : ℤ) }).setPagina p
      fun q => { q with bitPresencia := true }) n := by
  have hsalvo := h.sim.setUbicacion (f := fun q => { q with marco := (k : ℤ) })
    ⟨rfl, rfl, rfl, rfl, rfl, rfl⟩
  have hsalvo' := hsalvo.setUbicacion (f := fun q => { q with bitPresencia := true })
    ⟨rfl, rfl, rfl, rfl, rfl, rfl⟩
  exact hsalvo'.sim (ubicada_of h.marco (fun j hj => hb.marcos.inj j k p hj h.marco)
    (by simp [Estado.setPagina]) (by simp [Estado.setPagina]))

theorem traerPagina_sim (h : Sim E s n) (hb : n.Bien E.parametros)
    (ho : n.OrdenBien E.parametros) (hp : n.existe p) :
    Agree (traerPagina E p s) (n.traer E.parametros p)
      (fun r r' => r.1 = some (r'.1 : ℤ) ∧ Sim E r.2 r'.2) EsDesbordamiento EsRechazo := by
  have hlegible : Memoria.paginasLegibles [p] s = .ok () := h.paginasLegibles (by simpa using hp)
  have hrefrescada : Spec (if paginaIsInTlb p s then refrescarTlb E p s else .ok s)
      (fun s' => Sim E s' n) EsDesbordamiento := by
    split
    · next htlb =>
      exact (refrescarTlb_spec h.tlb htlb).mono (fun s' hs' => h.of_soloTlb hs'.1 hs'.2.1)
        fun _ he => he
    · exact h
  unfold traerPagina
  rw [hlegible, ok_bind]
  refine Agree.bind_left hrefrescada fun s₁ hsim => ?_
  have htraer := (obtenerMarcoParaPagina_sim hsim hb ho hp s₁.tlbList.length).and_right
    (Nucleo.traer_spec hb ho hp)
  rw [← bind_pure (n.traer E.parametros p)]
  refine htraer.bind fun r r' hr => ?_
  obtain ⟨marco, s₂⟩ := r
  obtain ⟨k, n₁⟩ := r'
  obtain ⟨⟨rfl, htraducida⟩, htraida⟩ := hr
  have hbien : n₁.Bien E.parametros := htraida.bien
  have hsim₁ := htraducida.ubicar hbien
  have hk : (k : ℤ) ≠ -1 := by omega
  have hcache := (hsim₁.paginaIsInCache_iff hbien
    (hbien.marcos.existe k p htraducida.marco)).2 ⟨k, htraducida.marco⟩
  have htlb : paginaIsInTlb p ((s₂.setPagina p fun q => { q with marco := (k : ℤ) }).setPagina p
      fun q => { q with bitPresencia := true }) = true := by
    obtain ⟨t, ht, hpid, hpag⟩ := paginaIsInTlb_iff.1 htraducida.enTlb
    refine paginaIsInTlb_iff.2 ⟨t, ht, ?_, ?_⟩
    · simpa [Estado.setPagina] using hpid
    · simpa [Estado.setPagina] using hpag
  simp only [if_neg hk, hcache, htlb, Bool.and_self, if_true]
  exact ⟨rfl, hsim₁⟩

end Traduccion

section Accesos

section Alcance

variable {offset tamanio : ℕ}

theorem alcance_enPagina
    (h : Nucleo.alcance E.config.tamanioPagina offset tamanio = .enPagina) :
    accesoEnCache E offset tamanio = .ok () ∧ offset + tamanio ≤ E.config.tamanioPagina := by
  have hP := E.config.pagina_lt
  unfold Nucleo.alcance at h
  split at h
  · next hle => exact ⟨if_pos (Or.inr (by omega)), hle⟩
  · split at h <;> cases h

theorem alcance_rechazado
    (h : Nucleo.alcance E.config.tamanioPagina offset tamanio = .rechazado) :
    accesoEnCache E offset tamanio = .ok () ∧
      E.config.tamanioPagina < (offset + tamanio) % 2 ^ 32 := by
  unfold Nucleo.alcance at h
  split at h
  · cases h
  · split at h
    · next hlt => exact ⟨if_pos (Or.inl hlt), hlt⟩
    · cases h

theorem alcance_fuera
    (h : Nucleo.alcance E.config.tamanioPagina offset tamanio = .fuera) :
    accesoEnCache E offset tamanio = .error .fueraDeCache := by
  unfold Nucleo.alcance at h
  split at h
  · cases h
  · next hle =>
    split at h
    · cases h
    · next hlt =>
      refine if_neg (not_or.2 ⟨hlt, fun hsum => hlt ?_⟩)
      rw [Nat.mod_eq_of_lt hsum]
      omega

end Alcance

theorem marcarAcceso_sim (h : Sim E s n) (ho : n.OrdenSalvo E.parametros p) (esEscritura : Bool) :
    Spec (marcarAcceso E esEscritura p s)
      (fun s' => Sim E s' (n.marcar E.parametros esEscritura p)) EsDesbordamiento := by
  unfold marcarAcceso Nucleo.marcar
  rw [show E.parametros.algoritmoReemplazoMmu = E.config.algoritmoReemplazoMmu from rfl]
  cases hmmu : E.config.algoritmoReemplazoMmu with
  | mClock =>
    refine ⟨h.cache, h.marcos, h.carpinchos, ?_, ?_, ?_, h.proximoPtr, h.mensajes, h.puntero,
      h.ramas, ?_, ⟨h.tlb.bien, h.tlb.fifo⟩⟩
    · intro q hq
      have hn := h.nombradas q hq
      rcases eq_or_ne q p with rfl | hqp
      · simp only [Estado.setPagina, Function.update_self]
        exact ⟨hn.pid, hn.pagina, hn.viva, fun hlru => by cases hlru.symm.trans hmmu⟩
      · simpa only [Estado.setPagina, Function.update_of_ne hqp] using hn
    · intro q hq
      have hbits := h.bits q hq
      rcases eq_or_ne q p with rfl | hqp
      · intro hm
        simp only [Estado.setPagina, Function.update_self, (hbits hm).2, and_self]
      · simpa only [Estado.setPagina, Function.update_of_ne hqp] using hbits
    · intro q hq
      have hu := h.ubicadas q hq
      rcases eq_or_ne q p with rfl | hqp
      · simp only [Estado.setPagina, Function.update_self]
        exact ⟨hu.presencia, hu.marco, hu.ausente⟩
      · simpa only [Estado.setPagina, Function.update_of_ne hqp] using hu
    · intro hlru
      rw [show E.parametros.algoritmoReemplazoMmu = E.config.algoritmoReemplazoMmu from rfl,
        hmmu] at hlru
      cases hlru
  | lru =>
    obtain ⟨hnodup, -⟩ := ho hmmu
    obtain ⟨hsorted, hlt⟩ := h.estampas hmmu
    refine (obtenerTimeStamp_spec s).bind fun r hr => ?_
    obtain ⟨ts, s₁⟩ := r
    obtain ⟨rfl, rfl⟩ := hr
    refine ⟨h.cache, h.marcos, h.carpinchos, ?_, ?_, ?_, h.proximoPtr, h.mensajes, h.puntero,
      h.ramas, ?_, ⟨h.tlb.bien, h.tlb.fifo⟩⟩
    · intro q hq
      have hn := h.nombradas q hq
      rcases eq_or_ne q p with rfl | hqp
      · simp only [Estado.setPagina, Function.update_self]
        exact ⟨hn.pid, hn.pagina, hn.viva, hn.limpia⟩
      · simpa only [Estado.setPagina, Function.update_of_ne hqp] using hn
    · intro q hq hm
      rw [show E.parametros.algoritmoReemplazoMmu = E.config.algoritmoReemplazoMmu from rfl,
        hmmu] at hm
      cases hm
    · intro q hq
      have hu := h.ubicadas q hq
      rcases eq_or_ne q p with rfl | hqp
      · simp only [Estado.setPagina, Function.update_self]
        exact ⟨hu.presencia, hu.marco, hu.ausente⟩
      · simpa only [Estado.setPagina, Function.update_of_ne hqp] using hu
    · intro _
      have hsame : ∀ q, q ≠ p → (Function.update s.descriptor p
          { s.descriptor p with timestamp := s.contadorTimestamp } q).timestamp =
          (s.descriptor q).timestamp := fun q hqp => by rw [Function.update_of_ne hqp]
      have hfresh : (Function.update s.descriptor p
          { s.descriptor p with timestamp := s.contadorTimestamp } p).timestamp =
          s.contadorTimestamp := by rw [Function.update_self]
      refine ⟨pairwise_touch hnodup hsorted hsame fun q hq =>
        lt_of_lt_of_eq (hlt q hq) hfresh.symm, fun q hq => ?_⟩
      rcases (mem_touch hnodup).1 hq with rfl | hq
      · exact lt_of_eq_of_lt hfresh (Nat.lt_succ_self _)
      · rcases eq_or_ne q p with rfl | hqp
        · exact lt_of_eq_of_lt hfresh (Nat.lt_succ_self _)
        · exact lt_of_eq_of_lt (hsame q hqp) (Nat.lt_succ_of_lt (hlt q hq))

theorem leerEnPagina_sim (h : Sim E s n) (hb : n.Bien E.parametros)
    (ho : n.OrdenBien E.parametros) (hp : n.existe p) (tamanio offset : ℕ) :
    Agree (leerEnPagina E p tamanio offset s) (n.leer E.parametros p tamanio offset)
      (fun r r' => r.1 = r'.1 ∧ Sim E r.2 r'.2) EsDesbordamiento EsRechazo := by
  unfold leerEnPagina Nucleo.leer
  refine ((traerPagina_sim h hb ho hp).and_right (Nucleo.traer_spec hb ho hp)).bind
    fun r r' hr => ?_
  obtain ⟨marco, s₁⟩ := r
  obtain ⟨k, n₁⟩ := r'
  obtain ⟨⟨rfl, hsim⟩, htraida⟩ := hr
  have hk := htraida.bien.marcos.lt k p htraida.marco
  have hmarcar := marcarAcceso_sim hsim htraida.orden false
  simp only
  rw [show E.parametros.tamanioPagina = E.config.tamanioPagina from rfl]
  cases halcance : Nucleo.alcance E.config.tamanioPagina offset tamanio with
  | enPagina =>
    obtain ⟨hacceso, hle⟩ := alcance_enPagina halcance
    rw [hacceso, ok_bind, retornarContenido_eq hk hle s₁]
    refine Agree.bind_left hmarcar fun s₂ hs₂ => ?_
    exact ⟨by rw [hsim.cache], hs₂⟩
  | rechazado =>
    obtain ⟨hacceso, hlt⟩ := alcance_rechazado halcance
    rw [hacceso, ok_bind, retornarContenido, if_pos hlt]
    exact Agree.bind_left hmarcar fun s₂ hs₂ => ⟨rfl, hs₂⟩
  | fuera =>
    rw [alcance_fuera halcance]
    exact agree_error _ _

theorem escribirEnPagina_sim (h : Sim E s n) (hb : n.Bien E.parametros)
    (ho : n.OrdenBien E.parametros) (hp : n.existe p) (buffer : List UInt8) (offset : ℕ) :
    Agree (escribirEnPagina E p buffer offset s) (n.escribir E.parametros p buffer offset)
      (fun r r' => r.1 = r'.1 ∧ Sim E r.2 r'.2) EsDesbordamiento EsRechazo := by
  unfold escribirEnPagina Nucleo.escribir
  refine ((traerPagina_sim h hb ho hp).and_right (Nucleo.traer_spec hb ho hp)).bind
    fun r r' hr => ?_
  obtain ⟨marco, s₁⟩ := r
  obtain ⟨k, n₁⟩ := r'
  obtain ⟨⟨rfl, hsim⟩, htraida⟩ := hr
  have hk := htraida.bien.marcos.lt k p htraida.marco
  have hsim₁ : Sim E
      { s₁ with cache := copy s₁.cache (k * E.config.tamanioPagina + offset) buffer }
      { n₁ with cache := copy n₁.cache (k * E.parametros.tamanioPagina + offset) buffer } :=
    ⟨by rw [hsim.cache]; rfl, hsim.marcos, hsim.carpinchos, hsim.nombradas, hsim.bits,
      hsim.ubicadas, hsim.proximoPtr, hsim.mensajes, hsim.puntero, hsim.ramas, hsim.estampas,
      ⟨hsim.tlb.bien, hsim.tlb.fifo⟩⟩
  simp only
  rw [show E.parametros.tamanioPagina = E.config.tamanioPagina from rfl]
  cases halcance : Nucleo.alcance E.config.tamanioPagina offset buffer.length with
  | enPagina =>
    obtain ⟨hacceso, hle⟩ := alcance_enPagina halcance
    rw [hacceso, ok_bind, escribirEnCache_eq hk hle s₁]
    exact Agree.bind_left (marcarAcceso_sim hsim₁ htraida.orden true) fun s₂ hs₂ => ⟨rfl, hs₂⟩
  | rechazado =>
    obtain ⟨hacceso, hlt⟩ := alcance_rechazado halcance
    rw [hacceso, ok_bind, escribirEnCache, if_pos (Nat.add_comm offset _ ▸ hlt)]
    exact Agree.bind_left (marcarAcceso_sim hsim htraida.orden true) fun s₂ hs₂ => ⟨rfl, hs₂⟩
  | fuera =>
    rw [alcance_fuera halcance]
    exact agree_error _ _

end Accesos

end Carpinchos.Memoria
