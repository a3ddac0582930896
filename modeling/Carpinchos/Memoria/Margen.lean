import Carpinchos.Memoria.Cambios
import Carpinchos.Memoria.SimulacionPaso

/-!
# Room in the counters

The time stamps, the hits and the misses are counted in variables of type `int`. Every function
counts a fixed number of times at most, so with room for that many in each counter no counter
overflows.
-/

namespace Carpinchos.Memoria

open Outcome Estado

variable {E : Entorno} {s s' : Estado} {n : Nucleo} {p j k : ℕ} {pid pagina : ℤ}

/-- Every counter can go up so many times. -/
structure Margen (k : ℕ) (s : Estado) : Prop where
  contador : s.contadorTimestamp + k < 2 ^ 31
  contadorTlb : s.contadorTimestampTlb + k < 2 ^ 31
  hits : s.tlbHitsTotales + k < 2 ^ 31
  miss : s.tlbMissTotales + k < 2 ^ 31
  carpinchos : ∀ c ∈ s.carpinchosList, c.tlbHits + k < 2 ^ 31 ∧ c.tlbMiss + k < 2 ^ 31

theorem Margen.mono (h : Margen k s) (hle : j ≤ k) : Margen j s := by
  refine ⟨?_, ?_, ?_, ?_, fun c hc => ?_⟩
  · have := h.contador
    omega
  · have := h.contadorTlb
    omega
  · have := h.hits
    omega
  · have := h.miss
    omega
  · have := h.carpinchos c hc
    omega

theorem incrementar_ok {x : ℕ} (h : x + 1 < 2 ^ 31) : incrementar x = .ok (x + 1) := if_pos h

def Carpincho.aciertos (c : Carpincho) : ℕ × ℕ := (c.tlbHits, c.tlbMiss)

theorem Margen.of_iguales (h : Margen k s) (hcontador : s'.contadorTimestamp = s.contadorTimestamp)
    (htlb : s'.contadorTimestampTlb = s.contadorTimestampTlb)
    (hhits : s'.tlbHitsTotales = s.tlbHitsTotales) (hmiss : s'.tlbMissTotales = s.tlbMissTotales)
    (hcar : s'.carpinchosList.map Carpincho.aciertos = s.carpinchosList.map Carpincho.aciertos) :
    Margen k s' := by
  refine ⟨hcontador ▸ h.contador, htlb ▸ h.contadorTlb, hhits ▸ h.hits, hmiss ▸ h.miss, ?_⟩
  intro c hc
  have hmem : c.aciertos ∈ s.carpinchosList.map Carpincho.aciertos := hcar ▸ List.mem_map_of_mem hc
  obtain ⟨d, hd, heq⟩ := List.mem_map.1 hmem
  obtain ⟨hhits', hmiss'⟩ := Prod.mk.inj heq
  have := h.carpinchos d hd
  omega

theorem Margen.of_soloMemoria (h : Margen k s) (hs : SoloMemoria s s') : Margen k s' := by
  refine h.of_iguales hs.contador hs.contadorTlb hs.hits hs.miss ?_
  have hmap := congrArg (List.map Carpincho.aciertos) hs.carpinchos
  simp only [List.map_map] at hmap
  exact hmap

section Contadores

theorem obtenerTimeStamp_margen (h : Margen (k + 1) s) :
    Spec (obtenerTimeStamp s) (fun r => Margen k r.2) (· ≠ .desbordamiento) := by
  have hcontador := h.contador
  unfold obtenerTimeStamp
  rw [incrementar_ok (by omega)]
  have hmenos := h.mono (Nat.le_succ k)
  exact ⟨by dsimp only; omega, hmenos.contadorTlb, hmenos.hits, hmenos.miss, hmenos.carpinchos⟩

theorem obtenerTimeStampTLB_margen (h : Margen (k + 1) s) :
    Spec (obtenerTimeStampTLB s) (fun r => Margen k r.2) (· ≠ .desbordamiento) := by
  have hcontador := h.contadorTlb
  unfold obtenerTimeStampTLB
  rw [incrementar_ok (by omega)]
  have hmenos := h.mono (Nat.le_succ k)
  exact ⟨hmenos.contador, by dsimp only; omega, hmenos.hits, hmenos.miss, hmenos.carpinchos⟩

theorem Margen.setCarpincho (h : Margen (k + 1) s) {pid : ℤ} {f : Carpincho → Carpincho}
    (hf : ∀ c ∈ s.carpinchosList, (f c).tlbHits + k < 2 ^ 31 ∧ (f c).tlbMiss + k < 2 ^ 31) :
    ∀ c ∈ (s.setCarpincho pid f).carpinchosList,
      c.tlbHits + k < 2 ^ 31 ∧ c.tlbMiss + k < 2 ^ 31 := by
  intro c hc
  obtain ⟨d, hd, rfl⟩ := List.mem_map.1 hc
  split
  · exact hf d hd
  · exact (h.mono (Nat.le_succ k)).carpinchos d hd

theorem tlbHit_margen (h : Margen (k + 1) s) :
    Spec (tlbHit p s) (Margen k) (· ≠ .desbordamiento) := by
  have hmenos := h.mono (Nat.le_succ k)
  unfold tlbHit
  split
  · exact Falla.noConfusion
  · next c hc =>
    have hcarpincho := h.carpinchos c (getCarpincho_pid hc).2
    have htotales := h.hits
    rw [incrementar_ok (by omega), ok_bind, incrementar_ok (by omega), ok_bind]
    refine ⟨hmenos.contador, hmenos.contadorTlb, by dsimp only; omega, hmenos.miss, ?_⟩
    exact h.setCarpincho fun d hd => ⟨by dsimp only; omega, (hmenos.carpinchos d hd).2⟩

theorem tlbMiss_margen (h : Margen (k + 1) s) :
    Spec (tlbMiss p s) (Margen k) (· ≠ .desbordamiento) := by
  have hmenos := h.mono (Nat.le_succ k)
  unfold tlbMiss
  split
  · exact Falla.noConfusion
  · next c hc =>
    have hcarpincho := h.carpinchos c (getCarpincho_pid hc).2
    have htotales := h.miss
    rw [incrementar_ok (by omega), ok_bind, incrementar_ok (by omega), ok_bind]
    refine ⟨hmenos.contador, hmenos.contadorTlb, hmenos.hits, by dsimp only; omega, ?_⟩
    exact h.setCarpincho fun d hd => ⟨(hmenos.carpinchos d hd).1, by dsimp only; omega⟩

theorem refrescarTlb_margen (h : Margen (k + 1) s) :
    Spec (refrescarTlb E p s) (Margen k) (· ≠ .desbordamiento) := by
  unfold refrescarTlb
  split
  · exact h.mono (Nat.le_succ k)
  · split
    · exact Falla.noConfusion
    · refine (obtenerTimeStamp_margen h).bind fun r hr => ?_
      exact hr.of_iguales rfl rfl rfl rfl rfl

/-- A look at the pages stops at a freed descriptor only. -/
theorem paginasLegibles_margen (ps : List ℕ) (s : Estado) :
    Spec (paginasLegibles ps s) (fun _ => True) (· ≠ .desbordamiento) := by
  unfold paginasLegibles
  split
  · exact Falla.noConfusion
  · exact trivial

theorem getPageByInts_margen (pid pagina : ℤ) (s : Estado) :
    Spec (getPageByInts pid pagina s) (fun _ => True) (· ≠ .desbordamiento) := by
  unfold getPageByInts
  split
  · exact Falla.noConfusion
  · exact (paginasLegibles_margen _ s).bind fun _ _ => trivial

theorem proximaPaginaASacarTlb_margen (h : Margen k s) :
    Spec (proximaPaginaASacarTlb E s) (fun r => Margen k r.2) (· ≠ .desbordamiento) := by
  have hsolo : ∀ l fifo, Margen k { s with tlbList := l, tlbFifoPointer := fifo } :=
    fun _ _ => h.of_iguales rfl rfl rfl rfl rfl
  unfold proximaPaginaASacarTlb
  split
  · unfold proximaPaginaASacarTlbByLru
    split
    · split
      · exact Falla.noConfusion
      · exact h
    · dsimp only
      split
      · exact Falla.noConfusion
      · exact hsolo _ _
  · unfold proximaPaginaASacarTlbByFifo
    split
    · split
      · exact Falla.noConfusion
      · exact h
    · dsimp only
      split
      · exact Falla.noConfusion
      · exact hsolo _ _

theorem actualizarTlb_margen {marco : ℤ} (h : Margen (k + 1) s) :
    Spec (actualizarTlb E p marco s) (Margen k) (· ≠ .desbordamiento) := by
  have hmenos := h.mono (Nat.le_succ k)
  unfold actualizarTlb
  split
  · exact hmenos
  · split
    · unfold actualizarTlbMarcoPresente
      split
      · exact Falla.noConfusion
      · next t _ =>
        refine (getPageByInts_margen t.pid t.pid s).bind fun q _ => ?_
        cases q with
        | none => exact Falla.noConfusion
        | some q => exact hmenos.of_iguales rfl rfl rfl rfl rfl
    · refine (proximaPaginaASacarTlb_margen h).bind fun r hr => ?_
      obtain ⟨saliente, s₁⟩ := r
      have hvacia : Margen (k + 1) (vaciarPaginaTlb saliente.entrada s₁) :=
        hr.of_iguales rfl rfl rfl rfl rfl
      unfold cargarPaginaPaginaTlb
      dsimp only
      split
      · exact Falla.noConfusion
      · refine (obtenerTimeStampTLB_margen hvacia).bind fun r' hr' => ?_
        exact hr'.of_iguales rfl rfl rfl rfl rfl

end Contadores

theorem Margen.createCarpincho (h : Margen k s) (pid : ℤ) : Margen k (createCarpincho pid s) := by
  have hcontador := h.contador
  unfold Memoria.createCarpincho
  split
  · exact h
  · refine ⟨h.contador, h.contadorTlb, h.hits, h.miss, fun c hc => ?_⟩
    rcases List.mem_append.1 hc with hc | hc
    · exact h.carpinchos c hc
    · rw [List.mem_singleton.1 hc]
      dsimp only
      omega

section Desalojo

theorem elegirPaginaASwampear_margen (pid : ℤ) (s : Estado) :
    Spec (elegirPaginaASwampear E pid s) (fun _ => True) (· ≠ .desbordamiento) := by
  have hcandidatas : Spec (paginasCandidatas E pid s) (fun _ => True) (· ≠ .desbordamiento) := by
    unfold paginasCandidatas
    split
    · unfold getPagesInCacheByCarpinchoPid
      split
      · exact Falla.noConfusion
      · exact (paginasLegibles_margen _ s).bind fun _ _ => trivial
    · exact (paginasLegibles_margen _ s).bind fun _ _ => trivial
  refine hcandidatas.bind fun paginas _ => ?_
  split
  · unfold getProximaASwampearByMClock
    split
    · exact Falla.noConfusion
    · split
      · exact Falla.noConfusion
      · split
        · exact Falla.noConfusion
        · exact trivial
  · unfold getProximaASwampearByLru
    split
    · exact Falla.noConfusion
    · exact trivial

theorem desalojarPagina_margen (v : ℕ) (pid pagina : ℤ) (s : Estado) :
    Spec (desalojarPagina E v pid pagina s) (fun _ => True) (· ≠ .desbordamiento) := by
  have hvaciar : ∀ marco s, Spec (vaciarMarcoEnCache E marco s) (fun _ => True)
      (· ≠ .desbordamiento) := by
    intro marco s
    unfold vaciarMarcoEnCache
    split
    · exact Falla.noConfusion
    · exact trivial
  refine (hvaciar _ _).bind fun s₁ _ => ?_
  dsimp only
  split
  · exact Falla.noConfusion
  · exact trivial

theorem swampearPagina_margen (h : Margen k s) :
    Spec (swampearPagina E pid pagina s) (fun r => Margen k r.2) (· ≠ .desbordamiento) := by
  have hno : Spec (swampearPagina E pid pagina s) (fun _ => True) (· ≠ .desbordamiento) := by
    refine (elegirPaginaASwampear_margen pid s).bind fun r _ => ?_
    dsimp only
    split
    · exact (desalojarPagina_margen r.1 pid pagina r.2).bind fun _ _ => trivial
    · exact trivial
  refine hno.self.mono ?_ fun _ he => he
  rintro ⟨marco, s'⟩ ⟨hs, -⟩
  exact h.of_soloMemoria (swampearPagina_cases hs).1

theorem marcoParaPaginaNueva_margen {beforeValue : Bool} (h : Margen k s) :
    Spec (marcoParaPaginaNueva E beforeValue pid pagina s) (fun r => Margen k r.2)
      (· ≠ .desbordamiento) := by
  have hno : Spec (marcoParaPaginaNueva E beforeValue pid pagina s) (fun _ => True)
      (· ≠ .desbordamiento) := by
    unfold marcoParaPaginaNueva
    split
    · split
      · exact Falla.noConfusion
      · exact trivial
    · refine (elegirPaginaASwampear_margen pid s).bind fun r _ => ?_
      exact desalojarPagina_margen r.1 pid pagina r.2
  refine hno.self.mono ?_ fun _ he => he
  rintro ⟨marco, s'⟩ ⟨hs, -⟩
  exact h.of_soloMemoria (marcoParaPaginaNueva_cases hs).1

end Desalojo

section Accesos

theorem obtenerMarcoSinTlb_margen (h : Margen (k + 1) s) :
    Spec (obtenerMarcoSinTlb E p s) (fun r => Margen k r.2) (· ≠ .desbordamiento) := by
  unfold obtenerMarcoSinTlb
  split
  · exact (tlbMiss_margen h).bind fun s₁ hs₁ => hs₁
  · exact (tlbHit_margen h).bind fun s₁ hs₁ => swampearPagina_margen hs₁

/-- A translation counts twice: the entry of the page names its frame, so it is not repeated. -/
theorem obtenerMarcoParaPagina_margen (hsim : Sim E s n) (hb : n.Bien E.parametros)
    (hp : n.existe p) (fuel : ℕ) (h : Margen (k + 2) s) :
    Spec (obtenerMarcoParaPagina E (fuel + 1) p s) (fun r => Margen k r.2)
      (· ≠ .desbordamiento) := by
  rw [obtenerMarcoParaPagina]
  split
  · next htlb =>
    obtain ⟨f, hf⟩ := hsim.marco_of_tlb hb hp htlb
    have hhit := (tlbHit_margen (p := p) h).and (tlbHit_spec (hsim.getCarpincho_isSome hb hp))
    refine (hhit.mono (fun _ hr => hr) fun _ he => he.1).bind fun s₁ hs₁ => ?_
    obtain ⟨hs₁, hsolo⟩ := hs₁
    have hsim₁ := hsim.of_soloTlb hsolo.solo (hsim.tlb.of_conteos hsolo)
    have htlb₁ : paginaIsInTlb p s₁ = true := by
      rw [paginaIsInTlb, hsolo.tlbList, esEntradaDe_congr hsolo.solo.descriptor]
      exact htlb
    rw [getMarcoDeTlb_eq hsim₁ hb hf htlb₁, ok_bind]
    exact (refrescarTlb_margen hs₁).bind fun s₂ hs₂ => hs₂
  · refine (obtenerMarcoSinTlb_margen h).bind fun r hr => ?_
    exact (actualizarTlb_margen hr).bind fun s₂ hs₂ => hs₂

theorem traerPagina_margen (hsim : Sim E s n) (hb : n.Bien E.parametros) (hp : n.existe p)
    (h : Margen (k + 3) s) :
    Spec (traerPagina E p s) (fun r => Margen k r.2) (· ≠ .desbordamiento) := by
  have hlegible : Memoria.paginasLegibles [p] s = .ok () := hsim.paginasLegibles (by simpa using hp)
  have hrefrescada : Spec (if paginaIsInTlb p s then refrescarTlb E p s else .ok s)
      (fun s' => Margen (k + 2) s' ∧ Sim E s' n) (· ≠ .desbordamiento) := by
    split
    · next htlb =>
      refine ((refrescarTlb_margen h).and (refrescarTlb_spec hsim.tlb htlb)).mono ?_
        fun _ he => he.1
      exact fun s' hs' => ⟨hs'.1, hsim.of_soloTlb hs'.2.1 hs'.2.2.1⟩
    · exact ⟨h.mono (by omega), hsim⟩
  unfold traerPagina
  rw [hlegible, ok_bind]
  refine hrefrescada.bind fun s₁ hs₁ => ?_
  refine (obtenerMarcoParaPagina_margen hs₁.2 hb hp _ hs₁.1).bind fun r hr => ?_
  dsimp only
  split
  · exact hr.of_iguales rfl rfl rfl rfl rfl
  · exact hr.of_iguales rfl rfl rfl rfl rfl

theorem marcarAcceso_margen {esEscritura : Bool} (h : Margen (k + 1) s) :
    Spec (marcarAcceso E esEscritura p s) (Margen k) (· ≠ .desbordamiento) := by
  unfold marcarAcceso
  split
  · exact (h.mono (Nat.le_succ k)).of_iguales rfl rfl rfl rfl rfl
  · refine (obtenerTimeStamp_margen h).bind fun r hr => ?_
    exact hr.of_iguales rfl rfl rfl rfl rfl

theorem escribirEnPagina_margen (hsim : Sim E s n) (hb : n.Bien E.parametros) (hp : n.existe p)
    {buffer : List UInt8} {offset : ℕ} (h : Margen (k + 4) s) :
    Spec (escribirEnPagina E p buffer offset s) (fun r => Margen k r.2)
      (· ≠ .desbordamiento) := by
  refine (traerPagina_margen hsim hb hp (k := k + 1) h).bind fun r hr => ?_
  obtain ⟨marco, s₁⟩ := r
  cases marco with
  | none => exact hr.mono (Nat.le_succ k)
  | some marco =>
    have hacceso : Spec (accesoEnCache E offset buffer.length) (fun _ => True)
        (· ≠ .desbordamiento) := by
      unfold accesoEnCache
      split
      · exact trivial
      · exact Falla.noConfusion
    refine hacceso.bind fun _ _ => ?_
    obtain ⟨result, cache, hcache⟩ := escribirEnCache_cases E marco buffer offset s₁
    have hcon : Margen (k + 1) { s₁ with cache := cache } := hr.of_iguales rfl rfl rfl rfl rfl
    dsimp only
    rw [hcache]
    exact (marcarAcceso_margen hcon).bind fun s₂ hs₂ => hs₂

theorem marcarCreacion_margen (h : Margen (k + 1) s) :
    Spec (marcarCreacion E p s) (Margen k) (· ≠ .desbordamiento) := by
  unfold marcarCreacion
  split
  · exact (h.mono (Nat.le_succ k)).of_iguales rfl rfl rfl rfl rfl
  · refine (obtenerTimeStamp_margen h).bind fun r hr => ?_
    exact hr.of_iguales rfl rfl rfl rfl rfl

theorem createPagina_margen (h : Margen (k + 2) s) :
    Spec (createPagina E pid s) (fun r => Margen k r.2) (· ≠ .desbordamiento) := by
  unfold createPagina
  split
  · exact Falla.noConfusion
  · next c _ =>
    have hpuede : Spec (canCarpinchoAddMarcoToPage E c { s with proximoPtr := s.proximoPtr + 1 })
        (fun _ => True) (· ≠ .desbordamiento) := by
      have hpresentes : Spec (getAllPagesInCache { s with proximoPtr := s.proximoPtr + 1 })
          (fun _ => True) (· ≠ .desbordamiento) :=
        (paginasLegibles_margen _ _).bind fun _ _ => trivial
      refine hpresentes.bind fun presentes _ => ?_
      cases E.config.tipoAsignacion with
      | fija => exact trivial
      | dinamica => exact trivial
    refine hpuede.bind fun beforeValue _ => ?_
    have hnueva : Margen (k + 2) (conDescriptor c s) := h.of_iguales rfl rfl rfl rfl rfl
    refine (marcoParaPaginaNueva_margen hnueva).bind fun r hr => ?_
    obtain ⟨marco, s₁⟩ := r
    dsimp only
    split
    · exact Falla.noConfusion
    · next instancia _ =>
      have hcon : Margen (k + 2) (conMarco s.proximoPtr marco instancia.marco c.pid
        (c.paginas.length + 1 : ℕ) s₁) := hr.of_iguales rfl rfl rfl rfl rfl
      refine (actualizarTlb_margen hcon).bind fun s₂ hs₂ => ?_
      refine (marcarCreacion_margen hs₂).bind fun s₃ hs₃ => ?_
      exact hs₃.of_iguales rfl rfl rfl rfl (map_setCarpincho (fun _ => by rfl) c.pid s₃)

end Accesos

end Carpinchos.Memoria
