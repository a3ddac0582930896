import Carpinchos.Memoria.SimulacionVictima

/-!
# Both machines bring in the same page

Eviction, translation and the two accesses of the module agree with those of the
machine without TLB. The module may stop when a counter overflows, and the machine
without TLB stops when SWAmP refuses a page.
-/

namespace Carpinchos.Memoria

open Outcome Bytes Replacement Estado

variable {E : Entorno} {s s' : Estado} {n n' : Nucleo} {pid : ℤ} {p v k : ℕ}

def EsDesbordamiento (e : Falla) : Prop := e = .desbordamiento

def EsRechazo (e : Falla) : Prop := e = .transferenciaRechazada

section Direcciones

theorem marco_ptr_lt (hk : k < E.config.cantidadMarcos) :
    k * E.config.tamanioPagina + E.config.tamanioPagina ≤ E.config.tamanio := by
  have h := Nat.mul_le_mul_right E.config.tamanioPagina (Nat.succ_le_of_lt hk)
  have h' := Nat.div_mul_le_self E.config.tamanio E.config.tamanioPagina
  rw [Nat.succ_mul] at h
  unfold Config.cantidadMarcos at h
  omega

theorem getMarcoPtr_eq (hk : k < E.config.cantidadMarcos) :
    getMarcoPtr E k = k * E.config.tamanioPagina := by
  have h := marco_ptr_lt hk
  have ht := E.config.tamanio_lt
  have hlt : ((k * E.config.tamanioPagina : ℕ) : ℤ) < 2 ^ 32 := by
    have : k * E.config.tamanioPagina < 2 ^ 32 := by omega
    exact_mod_cast this
  unfold getMarcoPtr
  rw [← Int.natCast_mul, Int.emod_eq_of_lt (Int.natCast_nonneg _) hlt, Int.toNat_natCast]

theorem acceso_valido {offset tamanio : ℕ} (h : offset + tamanio ≤ E.config.tamanioPagina) :
    ¬ E.config.tamanioPagina < (offset + tamanio) % 2 ^ 32 :=
  not_lt.2 ((Nat.mod_le _ _).trans h)

theorem retornarContenido_eq {offset tamanio : ℕ} (hk : k < E.config.cantidadMarcos)
    (h : offset + tamanio ≤ E.config.tamanioPagina) (s : Estado) :
    retornarContenido E k offset tamanio s =
      some (slice s.cache (k * E.config.tamanioPagina + offset) tamanio) := by
  rw [retornarContenido, if_neg (acceso_valido h), getMarcoPtr_eq hk]

theorem escribirEnCache_eq {offset : ℕ} {buffer : List UInt8} (hk : k < E.config.cantidadMarcos)
    (h : offset + buffer.length ≤ E.config.tamanioPagina) (s : Estado) :
    escribirEnCache E k buffer offset s =
      (0, { s with
        cache := copy s.cache (k * E.config.tamanioPagina + offset) buffer }) := by
  rw [escribirEnCache, if_neg (Nat.add_comm offset _ ▸ acceso_valido h), getMarcoPtr_eq hk]

end Direcciones

section Desalojo

theorem guardarEnSwamp_eq (h : Sim E s n) (hb : n.Bien E.parametros) (hk : n.marcos k = some v) :
    guardarEnSwamp E v s = { s with mensajes := (n.guardar E.parametros v k).mensajes } := by
  have hv := hb.marcos.existe k v hk
  have hmarco := (h.ubicadas v hv).marco k hk
  have hklt : k < E.config.cantidadMarcos := hb.marcos.lt k v hk
  have hcontenido :=
    retornarContenido_eq hklt ((Nat.zero_add _).le : 0 + E.config.tamanioPagina ≤ _) s
  have hiff : (E.config.algoritmoReemplazoMmu = .mClock ∧
      (s.descriptor v).bitDeModificacion = false) ↔
      (E.parametros.algoritmoReemplazoMmu = .mClock ∧ n.modificada v = false) :=
    and_congr_right fun hm => by rw [(h.bits v hv hm).2]
  unfold guardarEnSwamp Nucleo.guardar
  by_cases hlimpia : E.parametros.algoritmoReemplazoMmu = .mClock ∧ n.modificada v = false
  · rw [if_pos (hiff.2 hlimpia), if_pos hlimpia, ← h.mensajes]
  · rw [if_neg (mt hiff.1 hlimpia), if_neg hlimpia, enviarEscrituraSwap, hmarco, hcontenido,
      (h.nombradas v hv).pid, (h.nombradas v hv).pagina, h.mensajes, h.cache]
    rfl

theorem vaciarMarcoEnCache_spec {nombre : ℕ → ℤ × ℤ} {marcos : ℕ → Option ℕ}
    (hmarcos : s.marcosList = tablaDeMarcos E.config.cantidadMarcos nombre marcos)
    (htlb : TlbBien E s.tlbList s.marcosList) (hk : k < E.config.cantidadMarcos) :
    ∃ s' tlb, vaciarMarcoEnCache E k s = .ok s' ∧ s' = { s with
        cache := fill s.cache (k * E.config.tamanioPagina) E.config.tamanioPagina guion
        tlbList := tlb
        marcosList :=
          tablaDeMarcos E.config.cantidadMarcos nombre (Function.update marcos k none) } ∧
      TlbBien E tlb s.marcosList ∧ ∀ t ∈ tlb, t.marco ≠ k := by
  have hvacio := setMarco_vacio hmarcos (k := k)
  have hget : listGet s.marcosList k = some (marcoReal nombre k (marcos k)) := by
    rw [hmarcos, listGet_tabla hk]
  unfold vaciarMarcoEnCache
  simp only [hget, getMarcoPtr_eq hk, marcoReal_marco, getTlbItemByMarcoNumber, ← hvacio]
  cases ht : s.tlbList.find? fun t => decide (t.marco = (k : ℤ)) with
  | none => exact ⟨_, s.tlbList, rfl, rfl, htlb, by simpa using ht⟩
  | some t =>
    refine ⟨_, s.tlbList.map fun u => if u.entrada = t.entrada then u.vacia else u, rfl, rfl,
      htlb.vaciar t.entrada, ?_⟩
    · intro u hu heq
      have htmem : t ∈ s.tlbList := List.mem_of_find?_eq_some ht
      have htmarco : t.marco = k := by simpa using List.find?_some ht
      have hocupada : ∀ w ∈ s.tlbList, w.marco = k → w.pid ≠ 0 := by
        intro w hw hwk h0
        have := (htlb.vacia w hw h0).2
        omega
      obtain ⟨w, hw, rfl⟩ := List.mem_map.1 hu
      by_cases hent : w.entrada = t.entrada
      · simp only [hent, if_true, Tlb.vacia] at heq
        omega
      · simp only [hent, if_false] at heq
        exact hent (htlb.unico w hw t htmem (hocupada w hw heq) (hocupada t htmem htmarco)
          (heq.trans htmarco.symm))

/-- Entries that do not name frame `k` survive any change of frame `k`. -/
theorem TlbBien.update_marco {tlb : List Tlb} {N : ℕ} {nombre : ℕ → ℤ × ℤ}
    {marcos : ℕ → Option ℕ} (h : TlbBien E tlb (tablaDeMarcos N nombre marcos))
    (hk : ∀ t ∈ tlb, t.marco ≠ k) (o : Option ℕ) :
    TlbBien E tlb (tablaDeMarcos N nombre (Function.update marcos k o)) := by
  refine h.marcos_mono fun t ht h0 m hm hmarco _ => ?_
  obtain ⟨j, hj, rfl⟩ := mem_tabla.1 hm
  refine mem_tabla.2 ⟨j, hj, ?_⟩
  rw [Function.update_of_ne]
  rintro rfl
  exact hk t ht (by rw [← hmarco, marcoReal_marco])

theorem desalojarPagina_eq (h : Sim E s n) (hb : n.Bien E.parametros)
    (hk : n.marcos k = some v) (p : ℕ) :
    ∃ tlb, desalojarPagina E v (n.nombre p).1 (n.nombre p).2 s = .ok ((k : ℤ), { s with
        cache := (n.reemplazar E.parametros v k p).cache
        mensajes := (n.reemplazar E.parametros v k p).mensajes
        tlbList := tlb
        marcosList := tablaDeMarcos E.config.cantidadMarcos n.nombre
          (Function.update n.marcos k (some p))
        descriptor := Function.update s.descriptor v
          { s.descriptor v with bitPresencia := false, marco := 0 } }) ∧
      TlbBien E tlb (tablaDeMarcos E.config.cantidadMarcos n.nombre
        (Function.update n.marcos k (some p))) ∧ ∀ t ∈ tlb, t.marco ≠ k := by
  have hklt : k < E.config.cantidadMarcos := hb.marcos.lt k v hk
  have hmarco : (s.descriptor v).marco = k := (h.ubicadas v (hb.marcos.existe k v hk)).marco k hk
  obtain ⟨s₁, tlb, hvaciar, hs₁, htlb, hlibre⟩ := vaciarMarcoEnCache_spec
    (s := { s with mensajes := (n.guardar E.parametros v k).mensajes }) h.marcos h.tlb.bien hklt
  have hmarcos : s₁.marcosList = tablaDeMarcos E.config.cantidadMarcos n.nombre
      (Function.update n.marcos k none) := by rw [hs₁]
  refine ⟨tlb, ?_, ?_, hlibre⟩
  · unfold desalojarPagina
    simp only [guardarEnSwamp_eq h hb hk, hmarco, hvaciar, ok_bind,
      getMarcoByMarcoNumber_tabla hmarcos hklt, marcoReal_marco]
    rw [setMarco_eq (setMarco_ocupado (p := p) hmarcos rfl), Function.update_idem,
      Nucleo.reemplazar_cache, ← h.cache, hs₁]
    rfl
  · refine TlbBien.update_marco ?_ hlibre (some p)
    rw [← h.marcos]
    exact htlb

theorem update_marcos_iff (hb : n.Bien E.parametros) (hk : n.marcos k = some v) {q j : ℕ}
    (hqp : q ≠ p) :
    Function.update n.marcos k (some p) j = some q ↔ n.marcos j = some q ∧ q ≠ v := by
  rcases eq_or_ne j k with rfl | hjk
  · rw [Function.update_self, hk]
    simp only [Option.some.injEq]
    exact ⟨fun heq => absurd heq.symm hqp, fun heq => absurd heq.1.symm heq.2⟩
  · rw [Function.update_of_ne hjk]
    refine ⟨fun hj => ⟨hj, ?_⟩, And.left⟩
    rintro rfl
    exact hjk (hb.marcos.inj j k q hj hk)

theorem desalojarPagina_sim (h : Sim E s n) (hb : n.Bien E.parametros)
    (hk : n.marcos k = some v) (hpv : p ≠ v)
    (hp : Nombrada E.parametros (n.nombre p) (s.descriptor p)) :
    ∃ s', desalojarPagina E v (n.nombre p).1 (n.nombre p).2 s = .ok ((k : ℤ), s') ∧
      SimSalvo E p s' (n.reemplazar E.parametros v k p) ∧ (∀ t ∈ s'.tlbList, t.marco ≠ k) ∧
      s'.descriptor p = s.descriptor p := by
  have hv := hb.marcos.existe k v hk
  obtain ⟨tlb, heq, htlb, hlibre⟩ := desalojarPagina_eq h hb hk p
  have hexiste : ∀ q, (n.reemplazar E.parametros v k p).existe q ↔ n.existe q := by
    intro q
    simp [Nucleo.existe]
  have hdesc : ∀ q, q ≠ v → Function.update s.descriptor v
      { s.descriptor v with bitPresencia := false, marco := 0 } q = s.descriptor q :=
    fun q hq => Function.update_of_ne hq _ _
  have hv' : Function.update s.descriptor v
      { s.descriptor v with bitPresencia := false, marco := 0 } v =
      { s.descriptor v with bitPresencia := false, marco := 0 } := Function.update_self _ _ _
  generalize Function.update s.descriptor v
    { s.descriptor v with bitPresencia := false, marco := 0 } = D at heq hdesc hv'
  refine ⟨_, heq, ⟨rfl, ?_, ?_, ?_, ?_, ?_, ?_, rfl, ?_, h.ramas, ?_, htlb, h.tlb.fifo⟩, hlibre,
    hdesc p hpv⟩
  · rw [Nucleo.reemplazar_nombre, Nucleo.reemplazar_marcos]
  · rw [Nucleo.reemplazar_procesos]
    exact h.carpinchos
  · intro q hq
    rw [Nucleo.reemplazar_nombre]
    rcases eq_or_ne q v with rfl | hqv
    · have hn := h.nombradas q hv
      simp only [hv']
      exact ⟨hn.pid, hn.pagina, hn.viva, hn.limpia⟩
    · simp only [hdesc q hqv]
      exact hq.elim (fun hq => h.nombradas q ((hexiste q).1 hq)) fun heq => heq ▸ hp
  · intro q hq
    rw [Nucleo.reemplazar_uso, Nucleo.reemplazar_modificada]
    rcases eq_or_ne q v with rfl | hqv
    · simp only [hv']
      exact h.bits q hv
    · simp only [hdesc q hqv]
      exact h.bits q ((hexiste q).1 hq)
  · intro q hq hqp
    rw [Nucleo.reemplazar_marcos]
    rcases eq_or_ne q v with rfl | hqv
    · simp only [hv']
      refine ⟨?_, fun j hj => absurd rfl ((update_marcos_iff hb hk hqp).1 hj).2, fun _ => rfl⟩
      simp only [Bool.false_eq_true, false_iff, not_exists]
      exact fun j hj => ((update_marcos_iff hb hk hqp).1 hj).2 rfl
    · simp only [hdesc q hqv]
      have hu := h.ubicadas q ((hexiste q).1 hq)
      have hiff : ∀ j, Function.update n.marcos k (some p) j = some q ↔ n.marcos j = some q :=
        fun j => (update_marcos_iff hb hk hqp).trans (and_iff_left hqv)
      exact ⟨hu.presencia.trans (exists_congr fun j => (hiff j).symm),
        fun j hj => hu.marco j ((hiff j).1 hj), fun hj => hu.ausente fun j => mt (hiff j).2 (hj j)⟩
  · rw [Nucleo.reemplazar_proximoPtr]
    exact h.proximoPtr
  · rw [Nucleo.reemplazar_puntero]
    exact h.puntero
  · intro hlru
    obtain ⟨hsorted, hlt⟩ := h.estampas hlru
    have hts : ∀ q, (D q).timestamp = (s.descriptor q).timestamp := by
      intro q
      rcases eq_or_ne q v with rfl | hqv
      · rw [hv']
      · rw [hdesc q hqv]
    rw [Nucleo.reemplazar_orden]
    simp only [hts]
    exact ⟨hsorted.sublist List.erase_sublist, fun q hq => hlt q (List.mem_of_mem_erase hq)⟩

end Desalojo

section Traer

/-- After a page has been given a frame: the states agree except for where the module
says that the page is, and the frame has no entry in the TLB yet. -/
structure Alojamiento (E : Entorno) (p : ℕ) (s : Estado) (n : Nucleo) (k : ℕ) : Prop where
  sim : SimSalvo E p s n
  marco : n.marcos k = some p
  libre : ∀ t ∈ s.tlbList, t.marco ≠ k

/-- The victim chosen by the module can be evicted, and that is the machine's eviction. -/
structure Desalojable (E : Entorno) (p : ℕ) (nombre : ℤ × ℤ) (v : ℕ) (s : Estado) (n : Nucleo) :
    Prop where
  enCache : paginaIsInCache v s = true
  nombre_eq : n.nombre p = nombre
  desalojo : ∃ (k : ℕ) (s' : Estado), desalojarPagina E v nombre.1 nombre.2 s =
      .ok ((k : ℤ), s') ∧
    n.marcoDe E.parametros v = some k ∧
    Alojamiento E p s' (n.reemplazar E.parametros v k p) k

theorem victima_sim (h : Sim E s n) (hb : n.Bien E.parametros) (ho : n.OrdenBien E.parametros)
    (hpid : (n.proceso pid).isSome) (hp : Nombrada E.parametros (n.nombre p) (s.descriptor p))
    (hfuera : ∀ j, n.marcos j ≠ some p) :
    Agree (elegirPaginaASwampear E pid s) (n.elegir E.parametros pid)
      (fun r r' => r.1 = r'.1 ∧ Desalojable E p (n.nombre p) r.1 r.2 r'.2) (fun _ => False)
      (fun _ => False) := by
  refine ((elegir_sim h hb ho hpid).and_right (Nucleo.elegir_spec hb pid)).mono fun r r' hr => ?_
  obtain ⟨v, s₁⟩ := r
  obtain ⟨v', n₁⟩ := r'
  obtain ⟨⟨rfl, hsim, huso⟩, hcand, helegido, hbien⟩ := hr
  obtain ⟨k, -, hk⟩ := Nucleo.mem_residentes.1 (Nucleo.mem_residentes_of_candidato hcand)
  have hk₁ : n₁.marcos k = some v := by rw [helegido.marcos, hk]
  have hpv : p ≠ v := by
    rintro rfl
    exact hfuera k hk
  have hp₁ : Nombrada E.parametros (n₁.nombre p) (s₁.descriptor p) := by
    obtain ⟨⟨b, hdesc⟩, hlru⟩ := huso p
    rw [helegido.nombre, hdesc]
    refine ⟨hp.pid, hp.pagina, hp.viva, fun hmmu => ?_⟩
    rw [← hdesc, hlru hmmu]
    exact hp.limpia hmmu
  obtain ⟨s₂, heq, hsalvo, hlibre, -⟩ := desalojarPagina_sim hsim hbien hk₁ hpv hp₁
  rw [helegido.nombre] at heq
  refine ⟨rfl, ?_, congrFun helegido.nombre p, k, s₂, heq, hbien.marcos.marcoDe_eq hk₁, hsalvo,
    ?_, hlibre⟩
  · exact (hsim.paginaIsInCache_iff hbien (hbien.marcos.existe k v hk₁)).2 ⟨k, hk₁⟩
  · rw [Nucleo.reemplazar_marcos, Function.update_self]

/-- The eviction that makes room for a new page. -/
theorem swampearPaginaWhenCreatePage_sim (h : Sim E s n) (hb : n.Bien E.parametros)
    (ho : n.OrdenBien E.parametros) (hpid : (n.proceso (n.nombre p).1).isSome)
    (hp : Nombrada E.parametros (n.nombre p) (s.descriptor p)) (hfuera : ∀ j, n.marcos j ≠ some p) :
    Agree (swampearPaginaWhenCreatePage E (n.nombre p).1 (n.nombre p).2 s)
      (n.desalojarPara E.parametros (n.nombre p).1 p)
      (fun r r' => r.1 = r'.1 ∧ Alojamiento E p r.2 r'.2 r'.1) (fun _ => False)
      (fun _ => False) := by
  refine (victima_sim h hb ho hpid hp hfuera).bind fun r r' hr => ?_
  obtain ⟨v, s₁⟩ := r
  obtain ⟨v', n₁⟩ := r'
  obtain ⟨rfl, hd⟩ := hr
  obtain ⟨k, s₂, heq, hmarco, haloj⟩ := hd.desalojo
  simp only [heq, hmarco]
  exact ⟨rfl, haloj⟩

/-- A page read from SWAmP lands in the frame it was given. -/
theorem Alojamiento.leida (h : Alojamiento E p s n k) (contenido : List UInt8) (m : Mensaje) :
    Alojamiento E p
      { s with
        mensajes := s.mensajes ++ [m]
        cache := copy s.cache (k * E.config.tamanioPagina) contenido }
      { n with
        cache := copy n.cache (k * E.parametros.tamanioPagina) contenido
        mensajes := n.mensajes ++ [m] } k := by
  have hs := h.sim
  refine ⟨⟨?_, hs.marcos, hs.carpinchos, hs.nombradas, hs.bits, hs.ubicadas, hs.proximoPtr, ?_,
    hs.puntero, hs.ramas, hs.estampas, ⟨hs.tlb.bien, hs.tlb.fifo⟩⟩, h.marco, h.libre⟩
  · simp only [hs.cache]
    rfl
  · simp only [hs.mensajes]

theorem swampearPagina_sim (h : Sim E s n) (hb : n.Bien E.parametros)
    (ho : n.OrdenBien E.parametros) (hp : n.existe p) (hfuera : ∀ j, n.marcos j ≠ some p) :
    Agree (swampearPagina E (n.nombre p).1 (n.nombre p).2 s) (n.recuperar E.parametros p)
      (fun r r' => r.1 = r'.1 ∧ Alojamiento E p r.2 r'.2 r'.1) (fun _ => False) EsRechazo := by
  obtain ⟨c, hc, -⟩ := hb.tablas.existe_proceso hp
  have hpid : (n.proceso (n.nombre p).1).isSome := by rw [hc]; rfl
  have hvictima := victima_sim h hb ho hpid (h.nombradas p hp) hfuera
  unfold swampearPagina Nucleo.recuperar Nucleo.desalojarPara
  rw [bind_assoc]
  refine (hvictima.excuse (fun _ he => he) fun _ he => he.elim).bind fun r r' hr => ?_
  obtain ⟨v, s₁⟩ := r
  obtain ⟨v', n₁⟩ := r'
  obtain ⟨rfl, hd⟩ := hr
  change Desalojable E p (n.nombre p) v s₁ n₁ at hd
  obtain ⟨k, s₂, heq, hmarco, haloj⟩ := hd.desalojo
  have hklt : k < E.config.cantidadMarcos := (Nucleo.marcoDe_some hmarco).1
  simp only [hd.enCache, if_true, heq, hmarco, ok_bind, Nucleo.reemplazar_nombre, hd.nombre_eq,
    lecturaSwamp, haloj.sim.mensajes]
  cases hleer : E.leerSwamp (n₁.reemplazar E.parametros v k p).mensajes (n.nombre p).1
      (n.nombre p).2 with
  | none =>
    have hleer' : E.parametros.leerSwamp (n₁.reemplazar E.parametros v k p).mensajes
        (n.nombre p).1 (n.nombre p).2 = none := hleer
    rw [hleer']
    exact agree_of_right rfl
  | some contenido =>
    have hleer' : E.parametros.leerSwamp (n₁.reemplazar E.parametros v k p).mensajes
        (n.nombre p).1 (n.nombre p).2 = some contenido := hleer
    have hlen := E.leerSwamp_length _ _ _ _ hleer
    have hleida := haloj.leida contenido (.lectura (n.nombre p).1 (n.nombre p).2)
    simp only [hleer', escribirEnCache_eq hklt (by omega : 0 + contenido.length ≤ _), Nat.add_zero]
    rw [haloj.sim.mensajes, Nucleo.reemplazar_nombre] at hleida
    exact ⟨by simp, hleida⟩

end Traer

end Carpinchos.Memoria
