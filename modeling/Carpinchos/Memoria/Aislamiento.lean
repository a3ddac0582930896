import Carpinchos.Memoria.NucleoAislamiento
import Carpinchos.Memoria.Coherencia
import Carpinchos.Memoria.Efecto

/-!
# Isolation under fixed assignment

With FIJA a call on one carpincho leaves the pages, the frames, the bytes in memory and the
clock hand of every other carpincho as they were, and no carpincho ever holds more than
`marcos_por_carpincho` frames. All but the time stamps is read off the machine without TLB;
the time stamps are followed through the module itself.
-/

namespace Carpinchos.Memoria

open Outcome Estado Runs Bytes

variable {E : Entorno} {s s' : Estado} {n n' : Nucleo} {pid : ℤ}

section Definiciones

/-- What no call on another carpincho changes of a carpincho. -/
structure Intacto (E : Entorno) (s s' : Estado) (c : Carpincho) : Prop where
  carpincho : ∃ c' ∈ s'.carpinchosList, c'.pid = c.pid ∧ c'.paginas = c.paginas ∧
    c'.algoritmStackPointer = c.algoritmStackPointer
  descriptores : ∀ p ∈ c.paginas, s'.descriptor p = s.descriptor p
  marcos : ∀ m : Marco, m.pid = c.pid → (m ∈ s'.marcosList ↔ m ∈ s.marcosList)
  bytes : ∀ p ∈ c.paginas, (s.descriptor p).bitPresencia = true →
    slice s'.cache (getMarcoPtr E (s.descriptor p).marco) E.config.tamanioPagina =
      slice s.cache (getMarcoPtr E (s.descriptor p).marco) E.config.tamanioPagina

/-- Every carpincho holds at most `marcos_por_carpincho` frames, and the next call leaves those
that it is not about intact. -/
structure Aislada (E : Entorno) (s : Estado) : Prop where
  cuota : ∀ c ∈ s.carpinchosList, amountFrameUsedByCarpincho c s ≤ E.config.marcosPorCarpincho
  intactos : ∀ op r, Nucleo.Admisible op → paso E op s = .ok r →
    ∀ c ∈ s.carpinchosList, c.pid ≠ op.pid → Intacto E s r.2 c

end Definiciones

section Descriptores

theorem Pagina.igual {a b : Pagina} (hmarco : a.marco = b.marco)
    (hpid : a.carpinchoPid = b.carpinchoPid) (hpagina : a.pagina = b.pagina)
    (hpresencia : a.bitPresencia = b.bitPresencia) (huso : a.bitDeUso = b.bitDeUso)
    (hmodificacion : a.bitDeModificacion = b.bitDeModificacion)
    (hestampa : a.timestamp = b.timestamp) (hliberada : a.liberada = b.liberada) : a = b := by
  cases a
  cases b
  simp_all

theorem Sim.ubicada_eq (h : Sim E s n) (h' : Sim E s' n')
    (hrespeta : Nucleo.Respeta E.parametros pid n n') {q : ℕ} (hq : n.Ajena pid q) :
    (s'.descriptor q).bitPresencia = (s.descriptor q).bitPresencia ∧
      (s'.descriptor q).marco = (s.descriptor q).marco := by
  have hu := h.ubicadas q hq.1
  have hu' := h'.ubicadas q (hrespeta.ajena q hq).1
  constructor
  · rw [Bool.eq_iff_iff, hu'.presencia, hu.presencia]
    exact exists_congr fun k => hrespeta.marcos k q hq
  · by_cases hk : ∃ k, n.marcos k = some q
    · obtain ⟨k, hk⟩ := hk
      rw [hu.marco k hk, hu'.marco k ((hrespeta.marcos k q hq).2 hk)]
    · have hno : ∀ k, n.marcos k ≠ some q := fun k hk' => hk ⟨k, hk'⟩
      rw [hu.ausente hno, hu'.ausente fun k hk' => hno k ((hrespeta.marcos k q hq).1 hk')]

theorem Sim.bits_eq (h : Sim E s n) (h' : Sim E s' n')
    (hrespeta : Nucleo.Respeta E.parametros pid n n') {q : ℕ} (hq : n.Ajena pid q) :
    (s'.descriptor q).bitDeUso = (s.descriptor q).bitDeUso ∧
      (s'.descriptor q).bitDeModificacion = (s.descriptor q).bitDeModificacion := by
  have hq' := (hrespeta.ajena q hq).1
  cases hmmu : E.parametros.algoritmoReemplazoMmu with
  | lru =>
    obtain ⟨huso, hmodificacion⟩ := (h.nombradas q hq.1).limpia hmmu
    obtain ⟨huso', hmodificacion'⟩ := (h'.nombradas q hq').limpia hmmu
    rw [huso, huso', hmodificacion, hmodificacion']
    exact ⟨rfl, rfl⟩
  | mClock =>
    obtain ⟨huso, hmodificacion⟩ := h.bits q hq.1 hmmu
    obtain ⟨huso', hmodificacion'⟩ := h'.bits q hq' hmmu
    rw [huso, huso', hmodificacion, hmodificacion', hrespeta.uso q hq, hrespeta.modificada q hq]
    exact ⟨rfl, rfl⟩

theorem Sim.descriptor_eq (h : Sim E s n) (h' : Sim E s' n')
    (hrespeta : Nucleo.Respeta E.parametros pid n n') {q : ℕ} (hq : n.Ajena pid q)
    (hestampa : (s'.descriptor q).timestamp = (s.descriptor q).timestamp) :
    s'.descriptor q = s.descriptor q := by
  have hnombrada := h.nombradas q hq.1
  have hnombrada' := h'.nombradas q (hrespeta.ajena q hq).1
  have hnombre := hrespeta.nombre q hq
  obtain ⟨hpresencia, hmarco⟩ := h.ubicada_eq h' hrespeta hq
  obtain ⟨huso, hmodificacion⟩ := h.bits_eq h' hrespeta hq
  apply Pagina.igual hmarco _ _ hpresencia huso hmodificacion hestampa
  · rw [hnombrada.viva, hnombrada'.viva]
  · rw [hnombrada.pid, hnombrada'.pid, hnombre]
  · rw [hnombrada.pagina, hnombrada'.pagina, hnombre]

end Descriptores

section Estampas

theorem estampa_of_vista {p q : ℕ} (hqp : q ≠ p)
    (h : s'.vista (Vista.estampasSalvo p) = s.vista (Vista.estampasSalvo p)) :
    (s'.descriptor q).timestamp = (s.descriptor q).timestamp := by
  have hq := congrFun (congrArg (fun v => v.2.2) h) q
  simpa [Estado.vista, Vista.estampasSalvo, hqp] using hq

theorem Sim.ne_of_buscarPagina (h : Sim E s n) {pagina : ℤ} {p q : ℕ}
    (hbuscar : buscarPagina pid pagina s = .ok p) (hq : n.Ajena pid q) : q ≠ p := by
  rw [buscarPagina_eq h] at hbuscar
  obtain ⟨-, hnombre⟩ := (Nucleo.buscar_spec pid pagina).post_of_eq hbuscar
  rintro rfl
  exact hq.2 (congrArg Prod.fst hnombre)

/-- A call only stamps pages of the carpincho that it is about. -/
theorem Representa.estampa_eq (h : Representa E s n) {op : Operacion} {r : Resultado}
    (hpaso : paso E op s = .ok (r, s')) {q : ℕ} (hq : n.Ajena op.pid q) :
    (s'.descriptor q).timestamp = (s.descriptor q).timestamp := by
  cases op with
  | createCarpincho pid =>
    cases hpaso
    unfold createCarpincho
    split <;> rfl
  | createPagina pid =>
    unfold paso at hpaso
    dsimp only at hpaso
    split at hpaso
    · obtain ⟨⟨p, s₁⟩, hcrear, hpaso⟩ := bind_eq_ok.1 hpaso
      cases hpaso
      have hqp : q ≠ s.proximoPtr := by
        rw [h.sim.proximoPtr]
        exact ne_of_lt (h.bien.tablas.ptr_lt q hq.1)
      obtain ⟨c, -, -, hvista⟩ := vista_createPagina
        (Vista.sinEstampa_estampasSalvo s.proximoPtr) hcrear
      rw [estampa_of_vista hqp hvista]
      exact congrArg Pagina.timestamp (Function.update_of_ne hqp _ _)
    · cases hpaso
  | leerEnPagina pid pagina tamanio offset =>
    obtain ⟨p, hbuscar, hpaso⟩ := bind_eq_ok.1 hpaso
    obtain ⟨⟨contenido, s₁⟩, hleer, hpaso⟩ := bind_eq_ok.1 hpaso
    cases hpaso
    apply estampa_of_vista (h.sim.ne_of_buscarPagina hbuscar hq)
    exact vista_leerEnPagina (Vista.sinEstampa_estampasSalvo p) hleer
  | escribirEnPagina pid pagina buffer offset =>
    obtain ⟨p, hbuscar, hpaso⟩ := bind_eq_ok.1 hpaso
    obtain ⟨⟨result, s₁⟩, hescribir, hpaso⟩ := bind_eq_ok.1 hpaso
    cases hpaso
    apply estampa_of_vista (h.sim.ne_of_buscarPagina hbuscar hq)
    exact vista_escribirEnPagina (Vista.sinEstampa_estampasSalvo p) hescribir

end Estampas

section Intactos

theorem Sim.marco_of_mem (h : Sim E s n) (hb : n.Bien E.parametros) {m : Marco}
    (hm : m ∈ s.marcosList) (hne : m.pid ≠ 0) :
    ∃ k q, k < E.config.cantidadMarcos ∧ n.marcos k = some q ∧ n.existe q ∧
      (n.nombre q).1 = m.pid ∧ m = marcoReal n.nombre k (some q) := by
  rw [h.marcos] at hm
  obtain ⟨k, hk, rfl⟩ := mem_tabla.1 hm
  cases hmk : n.marcos k with
  | none =>
    rw [hmk] at hne
    exact absurd rfl hne
  | some q => exact ⟨k, q, hk, hmk, hb.marcos.existe k q hmk, rfl, rfl⟩

theorem Sim.mem_marcos (h : Sim E s n) {k q : ℕ} (hk : k < E.config.cantidadMarcos)
    (hmk : n.marcos k = some q) : marcoReal n.nombre k (some q) ∈ s.marcosList := by
  rw [h.marcos]
  exact mem_tabla.2 ⟨k, hk, by rw [hmk]⟩

theorem ajena_of_respeta (hrespeta : Nucleo.Respeta E.parametros pid n n') (ht' : n'.Tablas)
    {d : Proceso} (hd : d ∈ n.procesos) (hpid : d.pid ≠ pid) {q : ℕ} (hq : n'.existe q)
    (hnombre : (n'.nombre q).1 = d.pid) (ht : n.Tablas) : n.Ajena pid q := by
  obtain ⟨e, -, he, hqe⟩ := ht'.existe_proceso hq
  have hed : e = d := by
    apply List.inj_on_of_nodup_map ht'.pids he (hrespeta.procesos d hd hpid)
    rw [← hnombre, ht'.nombre_pid he hqe]
  rw [hed] at hqe
  refine ⟨⟨d, hd, hqe⟩, ?_⟩
  rw [ht.nombre_pid hd hqe]
  exact hpid

/-- A call that respects the other carpinchos leaves each of them intact. -/
theorem Representa.intacto (h : Representa E s n) (h' : Representa E s' n')
    (hrespeta : Nucleo.Respeta E.parametros pid n n')
    (hestampa : ∀ q, n.Ajena pid q → (s'.descriptor q).timestamp = (s.descriptor q).timestamp)
    {c : Carpincho} (hc : c ∈ s.carpinchosList) (hpid : c.pid ≠ pid) : Intacto E s s' c := by
  have hd : c.proceso ∈ n.procesos := h.sim.mem_carpinchos hc
  have hajena : ∀ q ∈ c.paginas, n.Ajena pid q := by
    intro q hq
    refine ⟨⟨c.proceso, hd, hq⟩, ?_⟩
    rw [h.bien.tablas.nombre_pid hd hq]
    exact hpid
  have hpid0 : c.pid ≠ 0 := h.bien.tablas.pid_ne c.proceso hd
  refine ⟨?_, fun q hq => ?_, fun m hm => ⟨fun hmem => ?_, fun hmem => ?_⟩, fun q hq hpres => ?_⟩
  · have hd' := hrespeta.procesos c.proceso hd hpid
    rw [← h'.sim.carpinchos] at hd'
    obtain ⟨c', hc', heq⟩ := List.mem_map.1 hd'
    simp only [Carpincho.proceso, Proceso.mk.injEq] at heq
    exact ⟨c', hc', heq.1, heq.2.2, heq.2.1⟩
  · exact h.sim.descriptor_eq h'.sim hrespeta (hajena q hq) (hestampa q (hajena q hq))
  · obtain ⟨k, q, hk, hmk, hq, hnombre, rfl⟩ := h'.sim.marco_of_mem h'.bien hmem (hm ▸ hpid0)
    have hqa : n.Ajena pid q :=
      ajena_of_respeta hrespeta h'.bien.tablas hd hpid hq (hnombre.trans hm) h.bien.tablas
    rw [marcoReal, hrespeta.nombre q hqa]
    exact h.sim.mem_marcos hk ((hrespeta.marcos k q hqa).1 hmk)
  · obtain ⟨k, q, hk, hmk, hq, hnombre, rfl⟩ := h.sim.marco_of_mem h.bien hmem (hm ▸ hpid0)
    have hqa : n.Ajena pid q := ⟨hq, fun heq => hpid (by rw [← heq, hnombre, hm])⟩
    rw [marcoReal, ← hrespeta.nombre q hqa]
    exact h'.sim.mem_marcos hk ((hrespeta.marcos k q hqa).2 hmk)
  · have hu := h.sim.ubicadas q (hajena q hq).1
    obtain ⟨k, hk⟩ := hu.presencia.1 hpres
    rw [hu.marco k hk, getMarcoPtr_eq (h.bien.marcos.lt k q hk), h'.sim.cache, h.sim.cache]
    exact slice_congr fun o ho => hrespeta.bytes k q (hajena q hq) hk o ho

end Intactos

section Corrida

def RepresentaEnCuota (E : Entorno) (s : Estado) : Prop :=
  ∃ n, Representa E s n ∧ n.EnCuota E.parametros

/-- One call of the module and the call of the machine that it represents. -/
theorem Representa.paso (h : Representa E s n)
    (hswamp : ∀ historia pid pagina, (E.leerSwamp historia pid pagina).isSome) {op : Operacion}
    (hop : Nucleo.Admisible op) {r : Resultado} (hpaso : Memoria.paso E op s = .ok (r, s')) :
    ∃ n', n.paso E.parametros op = .ok (r, n') ∧ Representa E s' n' := by
  have hagree := paso_sim h hop
  have hspec := Nucleo.paso_spec h.bien h.orden hop
  rw [hpaso] at hagree
  cases hn : n.paso E.parametros op with
  | error e =>
    rw [hn] at hagree hspec
    exact absurd hagree (no_rechazo hswamp hspec)
  | ok r' =>
    rw [hn] at hagree
    obtain ⟨r', n'⟩ := r'
    obtain ⟨rfl, h'⟩ := hagree
    exact ⟨n', rfl, h'⟩

theorem RepresentaEnCuota.paso (h : RepresentaEnCuota E s)
    (hfija : E.config.tipoAsignacion = .fija)
    (hswamp : ∀ historia pid pagina, (E.leerSwamp historia pid pagina).isSome) {op : Operacion}
    (hop : Nucleo.Admisible op) {r : Resultado} (hpaso : Memoria.paso E op s = .ok (r, s')) :
    RepresentaEnCuota E s' := by
  obtain ⟨n, h, hcuota⟩ := h
  obtain ⟨n', hn, h'⟩ := h.paso hswamp hop hpaso
  exact ⟨n', h', Nucleo.paso_enCuota hfija h.bien hn hcuota⟩

theorem RepresentaEnCuota.aislada (h : RepresentaEnCuota E s)
    (hfija : E.config.tipoAsignacion = .fija)
    (hswamp : ∀ historia pid pagina, (E.leerSwamp historia pid pagina).isSome) :
    Aislada E s := by
  obtain ⟨n, h, hcuota⟩ := h
  constructor
  · intro c hc
    have hpid : c.pid ≠ 0 := h.bien.tablas.pid_ne c.proceso (h.sim.mem_carpinchos hc)
    rw [h.sim.amountFrameUsedByCarpincho_eq hpid, Nucleo.length_filter_residentes]
    exact hcuota c.pid
  · intro op r hop hpaso c hc hpid
    obtain ⟨n', hn, h'⟩ := h.paso hswamp hop hpaso
    have hleer : Nucleo.TransfierePaginas E.parametros := E.leerSwamp_length
    have hrespeta := Nucleo.paso_respeta hfija hleer h.bien h.orden hn
    exact h.intacto h' hrespeta (fun q hq => h.estampa_eq hpaso hq) hc hpid

end Corrida

section SinTlb

/-- What a run without TLB entries reaches: no page, because a page that is created is entered
in the TLB. -/
structure Despoblada (E : Entorno) (s : Estado) : Prop where
  tlb : s.tlbList = []
  marcos : s.marcosList = createMarcos E.config
  paginas : ∀ c ∈ s.carpinchosList, c.paginas = [] ∧ c.pid ≠ 0

/-- No victim is found among no pages. -/
theorem elegir_sin_paginas (hfija : E.config.tipoAsignacion = .fija)
    (hpaginas : ∀ c ∈ s.carpinchosList, c.paginas = []) {r : ℕ × Estado} :
    elegirPaginaASwampear E pid s ≠ .ok r := by
  intro h
  obtain ⟨paginas, hcandidatas, h⟩ := bind_eq_ok.1 h
  have hvacia : paginas = [] := by
    unfold paginasCandidatas getPagesInCacheByCarpinchoPid at hcandidatas
    rw [hfija] at hcandidatas
    dsimp only at hcandidatas
    split at hcandidatas
    · cases hcandidatas
    · next c hc =>
      obtain ⟨-, -, hcandidatas⟩ := bind_eq_ok.1 hcandidatas
      cases hcandidatas
      rw [hpaginas c (getCarpincho_pid hc).2]
      rfl
  have hordenar : ∀ clave : ℕ → ℤ, ordenarPor E clave paginas = [] := by
    intro clave
    rw [hvacia]
    exact List.perm_nil.1 (mem_ordenarPor _ _)
  split at h
  · rw [getProximaASwampearByMClock, hordenar] at h
    cases h
  · rw [getProximaASwampearByLru, hordenar] at h
    cases h

theorem actualizarTlb_sin_entradas (htlb : s.tlbList = []) {p : ℕ} {marco : ℤ}
    (hmarco : marco ≠ -1) : actualizarTlb E p marco s ≠ .ok s' := by
  intro h
  rw [actualizarTlb, if_neg hmarco, isMarcoInTlb, htlb] at h
  obtain ⟨⟨t, s₁⟩, hproxima, -⟩ := bind_eq_ok.1 h
  obtain ⟨l, fifo, hperm, ht, -⟩ := proximaPaginaASacarTlb_cases hproxima
  rw [htlb] at hperm
  rw [List.perm_nil.1 hperm] at ht
  cases ht

theorem Despoblada.createPagina (h : Despoblada E s) (hfija : E.config.tipoAsignacion = .fija)
    {p : ℕ} : Memoria.createPagina E pid s ≠ .ok (p, s') := by
  intro hcrear
  obtain ⟨c, beforeValue, marco, s₁, instancia, s₂, s₃, hc, -, -, hmarco, hinstancia, hactualizar,
    -⟩ := createPagina_cases hcrear
  unfold marcoParaPaginaNueva at hmarco
  split at hmarco
  · split at hmarco
    · cases hmarco
    · cases hmarco
      refine absurd hactualizar (actualizarTlb_sin_entradas ?_ ?_)
      · exact h.tlb
      have hmem : instancia ∈ createMarcos E.config := by
        rw [← h.marcos]
        exact List.mem_of_find?_eq_some hinstancia
      obtain ⟨i, -, rfl⟩ := List.mem_map.1 hmem
      exact fun heq => absurd heq (by simp only; omega)
  · obtain ⟨r, helegir, -⟩ := bind_eq_ok.1 hmarco
    refine absurd helegir (elegir_sin_paginas hfija ?_)
    exact fun c hc => (h.paginas c hc).1

theorem Despoblada.buscarPagina (h : Despoblada E s) {pagina : ℤ} {p : ℕ} :
    Memoria.buscarPagina pid pagina s ≠ .ok p := by
  unfold Memoria.buscarPagina getPageByInts
  cases hc : getCarpincho pid s with
  | none => simp
  | some c =>
    have hpaginas := (h.paginas c (getCarpincho_pid hc).2).1
    simp [getPage, hpaginas, paginasLegibles]

theorem Despoblada.paso (h : Despoblada E s) (hfija : E.config.tipoAsignacion = .fija)
    {op : Operacion} {r : Resultado} (hpaso : Memoria.paso E op s = .ok (r, s')) :
    op = .createCarpincho op.pid ∧ s' = createCarpincho op.pid s := by
  cases op with
  | createCarpincho pid =>
    cases hpaso
    exact ⟨rfl, rfl⟩
  | createPagina pid =>
    unfold Memoria.paso at hpaso
    dsimp only at hpaso
    split at hpaso
    · obtain ⟨⟨p, s₁⟩, hcrear, -⟩ := bind_eq_ok.1 hpaso
      exact absurd hcrear (h.createPagina hfija)
    · cases hpaso
  | leerEnPagina pid pagina tamanio offset =>
    obtain ⟨p, hbuscar, -⟩ := bind_eq_ok.1 hpaso
    exact absurd hbuscar h.buscarPagina
  | escribirEnPagina pid pagina buffer offset =>
    obtain ⟨p, hbuscar, -⟩ := bind_eq_ok.1 hpaso
    exact absurd hbuscar h.buscarPagina

theorem Despoblada.createCarpincho (h : Despoblada E s) (hpid : 0 < pid) :
    Despoblada E (Memoria.createCarpincho pid s) := by
  unfold Memoria.createCarpincho
  split
  · exact h
  · refine ⟨h.tlb, h.marcos, fun c hc => ?_⟩
    rcases List.mem_append.1 hc with hc | hc
    · exact h.paginas c hc
    · rw [List.mem_singleton.1 hc]
      exact ⟨rfl, ne_of_gt hpid⟩

theorem Despoblada.aislada (h : Despoblada E s) (hfija : E.config.tipoAsignacion = .fija) :
    Aislada E s := by
  constructor
  · intro c hc
    have hninguno : (s.marcosList.filter fun m => m.pid = c.pid) = [] := by
      rw [h.marcos, List.filter_eq_nil_iff]
      intro m hm
      obtain ⟨i, -, rfl⟩ := List.mem_map.1 hm
      simpa using Ne.symm (h.paginas c hc).2
    rw [amountFrameUsedByCarpincho, hninguno]
    exact Nat.zero_le _
  · intro op r _ hpaso c hc _
    obtain ⟨-, heq⟩ := h.paso hfija hpaso
    have hpaginas := (h.paginas c hc).1
    rw [heq]
    unfold Memoria.createCarpincho
    split
    · exact ⟨⟨c, hc, rfl, rfl, rfl⟩, fun _ _ => rfl, fun _ _ => Iff.rfl, fun _ _ _ => rfl⟩
    · exact ⟨⟨c, List.mem_append_left _ hc, rfl, rfl, rfl⟩, fun _ _ => rfl, fun _ _ => Iff.rfl,
        fun _ _ _ => rfl⟩

end SinTlb

section Aislamiento

theorem inicializarMemoria_aislada (E : Entorno) (basura : ℕ → Pagina) :
    RepresentaEnCuota E (inicializarMemoria E.config basura) ∨
      Despoblada E (inicializarMemoria E.config basura) := by
  rcases Nat.eq_zero_or_pos E.config.cantidaEntradasTlb with hcero | hentradas
  · refine Or.inr ⟨?_, rfl, nofun⟩
    rw [inicializarMemoria, createTlb, hcero]
    rfl
  · exact Or.inl ⟨_, inicializarMemoria_representa hentradas basura, Nucleo.inicial_enCuota⟩

/-- In every state that a run reaches, no carpincho holds more frames than its quota, and the
next call leaves the other carpinchos intact. -/
theorem corrida_aislada (hfija : E.config.tipoAsignacion = .fija)
    (hswamp : ∀ historia pid pagina, (E.leerSwamp historia pid pagina).isSome)
    (basura : ℕ → Pagina) {ops : List Operacion} (hops : ∀ op ∈ ops, Nucleo.Admisible op)
    {r : List Resultado × Estado}
    (hrun : run (paso E) ops (inicializarMemoria E.config basura) = .ok r) : Aislada E r.2 := by
  have hpaso : ∀ op s, Nucleo.Admisible op → (RepresentaEnCuota E s ∨ Despoblada E s) →
      Spec (paso E op s) (fun r => RepresentaEnCuota E r.2 ∨ Despoblada E r.2)
        (fun _ => True) := by
    intro op s hop hs
    cases hpaso : paso E op s with
    | error e => trivial
    | ok r =>
      rcases hs with hs | hs
      · exact Or.inl (hs.paso hfija hswamp hop hpaso)
      · obtain ⟨heq, hr⟩ := hs.paso hfija hpaso
        rw [heq] at hop
        have hdespoblada := hs.createCarpincho hop
        rw [← hr] at hdespoblada
        exact Or.inr hdespoblada
  have hspec := run_invariant hpaso ops _ hops (inicializarMemoria_aislada E basura)
  rcases hspec.post_of_eq hrun with h | h
  · exact h.aislada hfija hswamp
  · exact h.aislada hfija

def configDosYDos : Config :=
  { configChica .mClock .lru with tamanio := 8, tipoAsignacion := .fija, tamanio_lt := by decide }

def dosPorLado : List Operacion :=
  [.createCarpincho 1, .createCarpincho 2, .createPagina 1, .createPagina 2, .createPagina 1,
    .createPagina 2, .createPagina 1, .escribirEnPagina 2 2 [7] 1, .leerEnPagina 1 1 2 0]

theorem corrida_aislada_dosPorLado :
    ∃ r, run (paso (entornoFiel configDosYDos)) dosPorLado
        (inicializarMemoria configDosYDos fun _ => paginaNueva 0 0) = .ok r ∧
      r.2.carpinchosList.map (fun c => amountFrameUsedByCarpincho c r.2) = [2, 2] ∧
      Aislada (entornoFiel configDosYDos) r.2 := by
  have hcorrida : returns (run (paso (entornoFiel configDosYDos)) dosPorLado
      (inicializarMemoria configDosYDos fun _ => paginaNueva 0 0))
      (fun r => r.2.carpinchosList.map (fun c => amountFrameUsedByCarpincho c r.2) = [2, 2]) =
        true := by
    decide +kernel
  obtain ⟨r, hr, hcuenta⟩ := exists_of_returns hcorrida
  refine ⟨r, hr, of_decide_eq_true hcuenta, ?_⟩
  refine corrida_aislada rfl (fun _ _ _ => rfl) (fun _ => paginaNueva 0 0) ?_ hr
  simp [dosPorLado, Nucleo.Admisible]

end Aislamiento

end Carpinchos.Memoria
