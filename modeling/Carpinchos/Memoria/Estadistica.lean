import Carpinchos.Library.Queues
import Carpinchos.Memoria.Coherencia
import Carpinchos.Memoria.PasoTlb

/-!
# The counts of hits and misses of the TLB

The translations of a run are read off its calls: each read or write of a page translates it
once, by an entry of the TLB, by the frame table or by a swap. A page fault is counted as a
hit, so the counts are those of the run just when it has no page fault.
-/

namespace Carpinchos.Memoria

open Outcome Estado Runs

variable {E : Entorno} {s s' : Estado} {p : ℕ} {k : ℤ}

section Definiciones

inductive Traduccion
  | porTlb
  | porMarco
  | falta
  deriving DecidableEq, Repr

def traduccion (p : ℕ) (s : Estado) : Traduccion :=
  if paginaIsInTlb p s then .porTlb else if paginaIsInCache p s then .porMarco else .falta

def traduccionDe (s : Estado) : Operacion → Option (ℤ × Traduccion)
  | .createCarpincho _ => none
  | .createPagina _ => none
  | .leerEnPagina pid pagina _ _ | .escribirEnPagina pid pagina _ _ =>
    match buscarPagina pid pagina s with
    | .ok p => some ((s.descriptor p).carpinchoPid, traduccion p s)
    | .error _ => none

/-- The translations of a run, in order. -/
def traducciones (E : Entorno) : List Operacion → Estado → List (ℤ × Traduccion) :=
  history (paso E) fun s op _ => (traduccionDe s op).toList

/-- The counts of a state are those of a history, in which some translations are hits and
the others misses. -/
structure Cuentas (acierta : Traduccion → Bool) (hs : List (ℤ × Traduccion)) (s : Estado) :
    Prop where
  hits : s.tlbHitsTotales = hs.countP fun h => acierta h.2
  miss : s.tlbMissTotales = hs.countP fun h => !acierta h.2
  propias : ∀ c ∈ s.carpinchosList,
    c.tlbHits = hs.countP (fun h => decide (h.1 = c.pid) && acierta h.2) ∧
      c.tlbMiss = hs.countP fun h => decide (h.1 = c.pid) && !acierta h.2

/-- The translations that the TLB answers are the hits. -/
def contestadas (t : Traduccion) : Bool := t = .porTlb

/-- What the module counts as a hit. -/
def contadas (t : Traduccion) : Bool := t ≠ .porMarco

end Definiciones

section Historia

variable {acierta acierta' : Traduccion → Bool} {hs : List (ℤ × Traduccion)}

/-- The counts of the module are right just when nothing but hits and soft misses happened. -/
theorem Cuentas.contestadas_iff (h : Cuentas contadas hs s) :
    Cuentas contestadas hs s ↔ ∀ h ∈ hs, h.2 ≠ .falta := by
  constructor
  · intro hc x hx hfalta
    have hlt : hs.countP (fun h => contestadas h.2) < hs.countP (fun h => contadas h.2) := by
      apply Queues.countP_lt_countP _ hx
      · rw [hfalta]
        rfl
      · rw [hfalta]
        rfl
      · intro y _ hy
        rw [contestadas, decide_eq_true_iff] at hy
        rw [hy]
        rfl
    have hhits := h.hits
    have hhits' := hc.hits
    omega
  · intro hno
    have hagree : ∀ x ∈ hs, contestadas x.2 = contadas x.2 := by
      intro x hx
      have hfalta := hno x hx
      cases ht : x.2 with
      | porTlb => rfl
      | porMarco => rfl
      | falta => exact absurd ht hfalta
    refine ⟨?_, ?_, fun c hc => ⟨?_, ?_⟩⟩
    · rw [h.hits]
      exact List.countP_congr fun x hx => by rw [hagree x hx]
    · rw [h.miss]
      exact List.countP_congr fun x hx => by rw [hagree x hx]
    · rw [(h.propias c hc).1]
      exact List.countP_congr fun x hx => by rw [hagree x hx]
    · rw [(h.propias c hc).2]
      exact List.countP_congr fun x hx => by rw [hagree x hx]

end Historia

section Conteos

variable {hs : List (ℤ × Traduccion)}

def Carpincho.conteos (c : Carpincho) : ℤ × ℕ × ℕ := (c.pid, c.tlbHits, c.tlbMiss)

def Estado.conteos (s : Estado) : ℕ × ℕ × List (ℤ × ℕ × ℕ) :=
  (s.tlbHitsTotales, s.tlbMissTotales, s.carpinchosList.map Carpincho.conteos)

theorem Cuentas.of_conteos {acierta : Traduccion → Bool} (h : Cuentas acierta hs s)
    (heq : s'.conteos = s.conteos) : Cuentas acierta hs s' := by
  simp only [Estado.conteos, Prod.mk.injEq] at heq
  obtain ⟨hhits, hmiss, hcar⟩ := heq
  refine ⟨hhits.trans h.hits, hmiss.trans h.miss, fun c hc => ?_⟩
  have hmem : c.conteos ∈ s.carpinchosList.map Carpincho.conteos :=
    hcar ▸ List.mem_map_of_mem hc
  obtain ⟨d, hd, hdc⟩ := List.mem_map.1 hmem
  simp only [Carpincho.conteos, Prod.mk.injEq] at hdc
  obtain ⟨hpid, hh, hm⟩ := hdc
  rw [← hpid, ← hh, ← hm]
  exact h.propias d hd

theorem SoloMemoria.conteos (h : SoloMemoria s s') : s'.conteos = s.conteos := by
  have hcar := congrArg (List.map Carpincho.conteos) h.carpinchos
  simp only [List.map_map] at hcar
  simp only [Estado.conteos, Prod.mk.injEq]
  exact ⟨h.hits, h.miss, hcar⟩

theorem Cuentas.tlbHit (h : Cuentas contadas hs s)
    (hpids : (s.carpinchosList.map Carpincho.pid).Nodup)
    {t : Traduccion} (ht : contadas t = true) (hs' : tlbHit p s = .ok s') :
    Cuentas contadas (hs ++ [((s.descriptor p).carpinchoPid, t)]) s' := by
  obtain ⟨c, hc, rfl⟩ := tlbHit_cases hs'
  obtain ⟨hpid, hmem⟩ := getCarpincho_pid hc
  refine ⟨?_, ?_, fun d hd => ?_⟩
  · simp [ht, h.hits]
  · simpa [ht, setCarpincho] using h.miss
  · obtain ⟨d', hd', rfl⟩ := List.mem_map.1 hd
    obtain ⟨hhits, hmiss⟩ := h.propias d' hd'
    by_cases heq : d'.pid = c.pid
    · obtain rfl := List.inj_on_of_nodup_map hpids hd' hmem heq
      simp [ht, hhits, hmiss, hpid]
    · simp only [if_neg heq]
      have hne : (s.descriptor p).carpinchoPid ≠ d'.pid := fun h' => heq (h'.symm.trans hpid.symm)
      simp [ht, hhits, hmiss, hne]

theorem Cuentas.tlbMiss (h : Cuentas contadas hs s)
    (hpids : (s.carpinchosList.map Carpincho.pid).Nodup) (hs' : tlbMiss p s = .ok s') :
    Cuentas contadas (hs ++ [((s.descriptor p).carpinchoPid, .porMarco)]) s' := by
  obtain ⟨c, hc, rfl⟩ := tlbMiss_cases hs'
  obtain ⟨hpid, hmem⟩ := getCarpincho_pid hc
  have ht : contadas .porMarco = false := rfl
  refine ⟨?_, ?_, fun d hd => ?_⟩
  · simpa [ht, setCarpincho] using h.hits
  · simp [ht, h.miss]
  · obtain ⟨d', hd', rfl⟩ := List.mem_map.1 hd
    obtain ⟨hhits, hmiss⟩ := h.propias d' hd'
    by_cases heq : d'.pid = c.pid
    · obtain rfl := List.inj_on_of_nodup_map hpids hd' hmem heq
      simp [ht, hhits, hmiss, hpid]
    · simp only [if_neg heq]
      have hne : (s.descriptor p).carpinchoPid ≠ d'.pid := fun h' => heq (h'.symm.trans hpid.symm)
      simp [ht, hhits, hmiss, hne]

end Conteos

section Paso

variable {V : ℤ → ℤ → Prop} {N : ℕ → ℤ × ℤ} {hs : List (ℤ × Traduccion)}

theorem conteos_refrescarTlb (h : refrescarTlb E p s = .ok s') : s'.conteos = s.conteos := by
  rcases refrescarTlb_cases h with ⟨-, rfl⟩ | ⟨-, t, -, rfl⟩
  · rfl
  · rfl

theorem conteos_actualizarTlb (h : actualizarTlb E p k s = .ok s') : s'.conteos = s.conteos := by
  obtain ⟨tlb, fifo, ts, desc, ramas, rfl⟩ := actualizarTlb_cases h
  rfl

/-- A translation counts once: as a miss when the page is in a frame without entry, else as
a hit. -/
theorem Cuentas.obtenerMarcoParaPagina {fuel : ℕ} (h : Cuentas contadas hs s)
    (hh : Huella V N s) (hpagina : (N p).2 ≠ 0)
    (hpids : (s.carpinchosList.map Carpincho.pid).Nodup)
    (hs' : obtenerMarcoParaPagina E fuel p s = .ok (k, s')) :
    Cuentas contadas (hs ++ [((s.descriptor p).carpinchoPid, traduccion p s)]) s' := by
  rcases obtenerMarcoParaPagina_cases hh hpagina hs' with
    ⟨hin, s₁, hhit, hrefrescar⟩ | ⟨hno, s₁, hmarco, hactualizar⟩
  · have htraduccion : traduccion p s = .porTlb := if_pos hin
    rw [htraduccion]
    exact (h.tlbHit hpids rfl hhit).of_conteos (conteos_refrescarTlb hrefrescar)
  · refine Cuentas.of_conteos ?_ (conteos_actualizarTlb hactualizar)
    unfold obtenerMarcoSinTlb at hmarco
    rw [traduccion, if_neg (Bool.eq_false_iff.1 hno)]
    split at hmarco
    · next hcache =>
      obtain ⟨s₂, hmiss, hmarco⟩ := bind_eq_ok.1 hmarco
      cases hmarco
      rw [if_pos hcache]
      exact h.tlbMiss hpids hmiss
    · next hcache =>
      obtain ⟨s₂, hhit, hmarco⟩ := bind_eq_ok.1 hmarco
      rw [if_neg hcache]
      exact (h.tlbHit hpids rfl hhit).of_conteos (swampearPagina_cases hmarco).1.conteos

theorem traduccion_refrescarTlb (h : refrescarTlb E p s = .ok s') :
    traduccion p s' = traduccion p s ∧ s'.descriptor = s.descriptor ∧
      s'.carpinchosList = s.carpinchosList := by
  rcases refrescarTlb_cases h with ⟨-, rfl⟩ | ⟨-, t, -, rfl⟩
  · exact ⟨rfl, rfl, rfl⟩
  · refine ⟨?_, rfl, rfl⟩
    rw [traduccion, paginaIsInTlb_refrescarTlb h]
    rfl

theorem Cuentas.accede (h : Cuentas contadas hs s) (hh : Huella V N s) (hpagina : (N p).2 ≠ 0)
    (hpids : (s.carpinchosList.map Carpincho.pid).Nodup) (hs' : Accede E p s s') :
    Cuentas contadas (hs ++ [((s.descriptor p).carpinchoPid, traduccion p s)]) s' := by
  obtain ⟨marco, s₁, cache, desc, ts, htraer, rfl, -⟩ := hs'.traer
  obtain ⟨s₂, k, s₃, desc', hrefrescar, hobtener, rfl, -⟩ := traerPagina_cases htraer
  split at hrefrescar
  · obtain ⟨htraduccion, hdesc, hcar⟩ := traduccion_refrescarTlb hrefrescar
    have h₂ := (h.of_conteos (conteos_refrescarTlb hrefrescar)).obtenerMarcoParaPagina
      (hh.refrescarTlb hrefrescar) hpagina (hcar ▸ hpids) hobtener
    rw [htraduccion, hdesc] at h₂
    exact h₂.of_conteos rfl
  · cases hrefrescar
    exact (h.obtenerMarcoParaPagina hh hpagina hpids hobtener).of_conteos rfl

theorem conteos_createPagina {pid : ℤ} (h : createPagina E pid s = .ok (p, s')) :
    s'.conteos = s.conteos := by
  obtain ⟨c, beforeValue, marco, s₁, instancia, s₂, s₃, -, rfl, -, hmarco, -, hactualizar,
    hmarcar, rfl⟩ := createPagina_cases h
  obtain ⟨desc, ts, rfl, -⟩ := marcarCreacion_cases hmarcar
  have hsolo := (marcoParaPaginaNueva_cases hmarco).1.conteos
  have hpaginas : ∀ t : Estado, (t.setCarpincho c.pid fun c =>
      { c with paginas := c.paginas ++ [s.proximoPtr] }).conteos = t.conteos := by
    intro t
    exact congrArg (fun l => (t.tlbHitsTotales, t.tlbMissTotales, l))
      (map_setCarpincho (fun _ => by rfl) c.pid t)
  exact (hpaginas _).trans ((conteos_actualizarTlb hactualizar).trans hsolo)

def DeCarpinchos (hs : List (ℤ × Traduccion)) (s : Estado) : Prop :=
  ∀ h ∈ hs, existCarpincho h.1 s = true

theorem existCarpincho_of_pids (h : s'.carpinchosList.map Carpincho.pid =
    s.carpinchosList.map Carpincho.pid) (pid : ℤ) :
    existCarpincho pid s' = existCarpincho pid s := by
  have hany : ∀ l : List Carpincho, (l.any fun c => decide (c.pid = pid)) =
      (l.map Carpincho.pid).any fun q => decide (q = pid) := by
    intro l
    rw [List.any_map]
    rfl
  rw [existCarpincho, existCarpincho, hany, hany, h]

theorem DeCarpinchos.of_pids (hde : DeCarpinchos hs s) (h : s'.carpinchosList.map Carpincho.pid =
    s.carpinchosList.map Carpincho.pid) : DeCarpinchos hs s' := by
  intro x hx
  rw [existCarpincho_of_pids h]
  exact hde x hx

theorem Cuentas.createCarpincho (h : Cuentas contadas hs s) (hde : DeCarpinchos hs s) (pid : ℤ) :
    Cuentas contadas hs (createCarpincho pid s) := by
  unfold Memoria.createCarpincho
  split
  · exact h
  · next hno =>
    refine ⟨h.hits, h.miss, fun c hc => ?_⟩
    rcases List.mem_append.1 hc with hc | hc
    · exact h.propias c hc
    · obtain rfl := List.mem_singleton.1 hc
      have hajenas : ∀ x ∈ hs, ¬ x.1 = pid := fun x hx heq => hno (heq ▸ hde x hx)
      constructor
      · exact (List.countP_eq_zero.2 fun x hx => by simp [hajenas x hx]).symm
      · exact (List.countP_eq_zero.2 fun x hx => by simp [hajenas x hx]).symm

/-- The counts of the module after a history, with what they rest on. -/
structure Llevadas (hs : List (ℤ × Traduccion)) (s : Estado) : Prop where
  libro : LibroNumerado s
  cuentas : Cuentas contadas hs s
  pids : DeCarpinchos hs s

theorem Llevadas.accede {pid pagina : ℤ} (h : Llevadas hs s)
    (hp : buscarPagina pid pagina s = .ok p) (hacceso : Accede E p s s')
    (hlibro : LibroNumerado s') (heaps : s'.heaps = s.heaps) :
    Llevadas (hs ++ [((s.descriptor p).carpinchoPid, traduccion p s)]) s' := by
  obtain ⟨c, hc, hpc, hnombre⟩ := buscarPagina_some hp
  obtain ⟨hpid, hmem⟩ := getCarpincho_pid hc
  obtain ⟨-, hpagina⟩ := h.libro.paginaDe hmem hpc
  have hpids := pids_of_duenio (duenio_of_heaps heaps)
  refine ⟨hlibro, h.cuentas.accede h.libro.huella hpagina h.libro.pids hacceso, fun x hx => ?_⟩
  rw [existCarpincho_of_pids hpids]
  rcases List.mem_append.1 hx with hx | hx
  · exact h.pids x hx
  · obtain rfl := List.mem_singleton.1 hx
    refine List.any_eq_true.2 ⟨c, hmem, decide_eq_true ?_⟩
    exact hpid.trans (congrArg Prod.fst hnombre).symm

theorem llevadas_paso {op : Operacion} {o : Resultado} (h : Llevadas hs s)
    (hs' : paso E op s = .ok (o, s')) :
    Llevadas (hs ++ (traduccionDe s op).toList) s' := by
  have hlibro := libro_paso h.libro hs'
  cases op with
  | createCarpincho pid =>
    cases hs'
    simp only [traduccionDe, Option.toList_none, List.append_nil]
    refine ⟨hlibro, h.cuentas.createCarpincho h.pids pid, fun x hx => ?_⟩
    have hviejo := h.pids x hx
    unfold Memoria.createCarpincho
    split
    · exact hviejo
    · simp only [existCarpincho, List.any_append]
      rw [show (s.carpinchosList.any fun c => decide (c.pid = x.1)) = true from hviejo]
      rfl
  | createPagina pid =>
    simp only [traduccionDe, Option.toList_none, List.append_nil]
    unfold paso at hs'
    dsimp only at hs'
    split at hs'
    · obtain ⟨⟨q, s₁⟩, hcrear, hok⟩ := bind_eq_ok.1 hs'
      cases hok
      obtain ⟨c, -, -, heaps⟩ := heaps_createPagina hcrear
      exact ⟨hlibro, h.cuentas.of_conteos (conteos_createPagina hcrear),
        h.pids.of_pids (pids_conPagina heaps)⟩
    · cases hs'
  | leerEnPagina pid pagina tamanio offset =>
    obtain ⟨q, hq, hs'⟩ := bind_eq_ok.1 hs'
    obtain ⟨⟨contenido, s₁⟩, hleer, hok⟩ := bind_eq_ok.1 hs'
    cases hok
    simp only [traduccionDe, hq, Option.toList_some]
    exact h.accede hq (Or.inl ⟨_, _, _, hleer⟩) hlibro (heaps_leerEnPagina hleer)
  | escribirEnPagina pid pagina buffer offset =>
    obtain ⟨q, hq, hs'⟩ := bind_eq_ok.1 hs'
    obtain ⟨⟨result, s₁⟩, hescribir, hok⟩ := bind_eq_ok.1 hs'
    cases hok
    simp only [traduccionDe, hq, Option.toList_some]
    exact h.accede hq (Or.inr ⟨_, _, _, hescribir⟩) hlibro (heaps_escribirEnPagina hescribir)

end Paso

section Corrida

theorem llevadas_inicial (cfg : Config) (basura : ℕ → Pagina) :
    Llevadas [] (inicializarMemoria cfg basura) :=
  ⟨libro_inicial cfg basura, ⟨rfl, rfl, fun _ hc => absurd hc List.not_mem_nil⟩,
    fun _ hx => absurd hx List.not_mem_nil⟩

/-- The counts are the translations that the TLB answers and those that it does not, in all
and for each carpincho, just when no page of the run is brought in by a swap. -/
theorem estadistica_iff (E : Entorno) (basura : ℕ → Pagina) (ops : List Operacion)
    (r : List Resultado × Estado)
    (hr : run (paso E) ops (inicializarMemoria E.config basura) = .ok r) :
    Cuentas contestadas (traducciones E ops (inicializarMemoria E.config basura)) r.2 ↔
      ∀ h ∈ traducciones E ops (inicializarMemoria E.config basura), h.2 ≠ .falta := by
  have hpaso : ∀ hs s op o s', Llevadas hs s → True → paso E op s = .ok (o, s') →
      Llevadas (hs ++ (traduccionDe s op).toList) s' :=
    fun _ _ _ _ _ h _ hs' => llevadas_paso h hs'
  have h := (reaches_of_run hr).history_invariant hpaso (llevadas_inicial E.config basura)
  exact h.cuentas.contestadas_iff

/-- Two pages in two frames, and one entry: a soft miss and then a hit. -/
def dosLecturas : List Operacion :=
  [.createCarpincho 1, .createPagina 1, .createPagina 1, .leerEnPagina 1 1 2 0,
    .leerEnPagina 1 1 2 0]

theorem estadistica_dosLecturas :
    ∃ r, run (paso (entornoFiel (configChica .lru .fifo))) dosLecturas
        (inicializarMemoria (configChica .lru .fifo) fun _ => paginaNueva 0 0) = .ok r ∧
      Cuentas contestadas (traducciones (entornoFiel (configChica .lru .fifo)) dosLecturas
        (inicializarMemoria (configChica .lru .fifo) fun _ => paginaNueva 0 0)) r.2 := by
  obtain ⟨r, hr⟩ := exists_of_isOk (x := run (paso (entornoFiel (configChica .lru .fifo)))
    dosLecturas (inicializarMemoria (configChica .lru .fifo) fun _ => paginaNueva 0 0))
    (by decide +kernel)
  have htraducciones : traducciones (entornoFiel (configChica .lru .fifo)) dosLecturas
      (inicializarMemoria (configChica .lru .fifo) fun _ => paginaNueva 0 0) =
        [(1, .porMarco), (1, .porTlb)] := by decide +kernel
  refine ⟨r, hr, (estadistica_iff _ _ _ r hr).2 ?_⟩
  exact htraducciones ▸ (by decide)

/-- Three pages in two frames: the read of the first one is a page fault, and a hit. -/
theorem falta_cuenta_como_acierto :
    ¬ ∀ ops r, run (paso (entornoFiel (configChica .lru .fifo))) ops
        (inicializarMemoria (configChica .lru .fifo) fun _ => paginaNueva 0 0) = .ok r →
      Cuentas contestadas (traducciones (entornoFiel (configChica .lru .fifo)) ops
        (inicializarMemoria (configChica .lru .fifo) fun _ => paginaNueva 0 0)) r.2 := by
  intro hclaim
  have hrun : returns (run (paso (entornoFiel (configChica .lru .fifo))) tresPaginas
      (inicializarMemoria (configChica .lru .fifo) fun _ => paginaNueva 0 0))
      (fun r => decide (r.2.tlbHitsTotales = 1)) = true := by decide +kernel
  obtain ⟨r, hr, hhits⟩ := exists_of_returns hrun
  have htraducciones : traducciones (entornoFiel (configChica .lru .fifo)) tresPaginas
      (inicializarMemoria (configChica .lru .fifo) fun _ => paginaNueva 0 0) = [(1, .falta)] := by
    decide +kernel
  have hcuentas := (hclaim tresPaginas r hr).hits
  rw [htraducciones, of_decide_eq_true hhits] at hcuentas
  cases hcuentas

end Corrida

end Carpinchos.Memoria
