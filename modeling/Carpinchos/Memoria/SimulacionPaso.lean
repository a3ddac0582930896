import Carpinchos.Memoria.SimulacionTraduccion

/-!
# Whole runs agree with the machine without TLB

Creation of a page takes the same frame on both sides. Together with the accesses
this gives one simulation step for every call, and from it the agreement of whole
runs that start with the empty memory.
-/

namespace Carpinchos.Memoria

open Outcome Bytes Replacement Estado Runs

variable {E : Entorno} {s s' : Estado} {n n' : Nucleo} {pid numero : ℤ} {p k : ℕ}

section Permiso

theorem pairwise_tabla {N : ℕ} {nombre : ℕ → ℤ × ℤ} {marcos : ℕ → Option ℕ} :
    (tablaDeMarcos N nombre marcos).Pairwise fun m m' => m.marco < m'.marco := by
  rw [tablaDeMarcos, List.pairwise_map]
  refine List.pairwise_lt_range.imp fun {i j} hij => ?_
  simpa using hij

theorem Sim.getFreeMarco_eq (h : Sim E s n) :
    getFreeMarco E s =
      (n.marcoLibre E.parametros).map fun k => marcoReal n.nombre k (n.marcos k) := by
  have hsorted : ((s.marcosList.filter fun m => m.isFree)).Pairwise
      fun m m' => m.marco < m'.marco := by
    rw [h.marcos]
    exact pairwise_tabla.sublist List.filter_sublist
  rw [getFreeMarco, ordenarPor_eq (List.Perm.refl _) hsorted, listGet, if_pos le_rfl,
    Int.toNat_zero, ← List.head?_eq_getElem?, List.head?_filter, h.marcos, tablaDeMarcos,
    List.find?_map, Nucleo.marcoLibre]
  congr 1
  refine List.find?_congr fun k _ => ?_
  cases hk : n.marcos k <;> simp [marcoReal, hk]

theorem Sim.anyMarcoFree_eq (h : Sim E s n) :
    anyMarcoFree s = (n.marcoLibre E.parametros).isSome := by
  rw [anyMarcoFree, h.marcos, tablaDeMarcos, List.any_map, Nucleo.marcoLibre, Bool.eq_iff_iff,
    List.any_eq_true, List.find?_isSome]
  simp only [Function.comp_apply, marcoReal_isFree, Option.isNone_iff_eq_none, decide_eq_true_eq]
  rfl

theorem Sim.amountFrameUsedByCarpincho_eq (h : Sim E s n) {c : Carpincho} (hc : c.pid ≠ 0) :
    amountFrameUsedByCarpincho c s =
      ((n.residentes E.parametros).filter (n.esDe c.pid)).length := by
  rw [amountFrameUsedByCarpincho, h.marcos, Nucleo.length_filter_residentes, Nucleo.ocupados,
    tablaDeMarcos, ← List.countP_eq_length_filter, List.countP_map]
  refine List.countP_congr fun k _ => ?_
  cases hk : n.marcos k with
  | none => simp [marcoReal, hk, Ne.symm hc]
  | some q => simp [marcoReal, hk, Nucleo.esDe]

theorem Sim.canCarpinchoAddMarcoToPage_eq (h : Sim E s n) (hb : n.Bien E.parametros)
    {c : Carpincho} (hc : c.pid ≠ 0) :
    canCarpinchoAddMarcoToPage E c s = .ok (n.puedeTomarMarco E.parametros c.pid) := by
  obtain ⟨l, hl, hperm⟩ := getAllPagesInCache_perm h hb
  have hlength : l.length ≤ E.config.cantidadMarcos := by
    rw [hperm.length_eq]
    exact (List.length_filterMap_le _ _).trans (List.length_range).le
  unfold canCarpinchoAddMarcoToPage Nucleo.puedeTomarMarco
  rw [hl, ok_bind, show E.parametros.tipoAsignacion = E.config.tipoAsignacion from rfl]
  simp only [hlength, decide_true, Bool.true_and, h.anyMarcoFree_eq,
    h.amountFrameUsedByCarpincho_eq hc]
  cases E.config.tipoAsignacion with
  | fija => rfl
  | dinamica => rw [Bool.and_true]

end Permiso

section Nombrar

theorem tablaDeMarcos_congr {N : ℕ} {nombre nombre' : ℕ → ℤ × ℤ} {marcos : ℕ → Option ℕ}
    (h : ∀ k q, marcos k = some q → nombre' q = nombre q) :
    tablaDeMarcos N nombre' marcos = tablaDeMarcos N nombre marcos := by
  refine List.map_congr_left fun k _ => ?_
  cases hk : marcos k with
  | none => rfl
  | some q => simp only [marcoReal, h k q hk]

theorem Sim.nombrar (h : Sim E s n) (hb : n.Bien E.parametros) (ho : n.OrdenBien E.parametros)
    (pid : ℤ) (numero : ℕ) :
    Sim E (({ s with proximoPtr := s.proximoPtr + 1 } : Estado).setPagina s.proximoPtr
      fun _ => paginaNueva pid numero) (n.nombrar pid numero) := by
  have hdesc : ∀ q, n.existe q → Function.update s.descriptor s.proximoPtr
      (paginaNueva pid numero) q = s.descriptor q := by
    intro q hq
    refine Function.update_of_ne (fun heq => ?_) _ _
    rw [heq, h.proximoPtr] at hq
    exact Nucleo.no_existe_proximoPtr hb.tablas hq
  refine ⟨h.cache, ?_, h.carpinchos, ?_, ?_, ?_, ?_, h.mensajes, h.puntero, h.ramas, ?_,
    ⟨h.tlb.bien, h.tlb.fifo⟩⟩
  · refine h.marcos.trans (tablaDeMarcos_congr fun k q hk => ?_).symm
    exact Nucleo.nombrar_nombre_of_existe hb (hb.marcos.existe k q hk)
  · intro q hq
    rw [Nucleo.nombrar_nombre_of_existe hb hq]
    simpa only [Estado.setPagina, hdesc q hq] using h.nombradas q hq
  · intro q hq
    simpa only [Estado.setPagina, Nucleo.nombrar, hdesc q hq] using h.bits q hq
  · intro q hq
    simpa only [Estado.setPagina, Nucleo.nombrar, hdesc q hq] using h.ubicadas q hq
  · simp only [Estado.setPagina, Nucleo.nombrar, h.proximoPtr]
  · intro hlru
    obtain ⟨hsorted, hlt⟩ := h.estampas hlru
    have hexiste : ∀ q ∈ n.orden, n.existe q := by
      intro q hq
      obtain ⟨k, -, hk⟩ := Nucleo.mem_residentes.1 (((ho hlru).2 q).1 hq)
      exact hb.marcos.existe k q hk
    refine ⟨hsorted.imp_of_mem fun {a b} ha hb hab => ?_, fun q hq => ?_⟩
    · simpa only [Estado.setPagina, hdesc a (hexiste a ha), hdesc b (hexiste b hb)] using hab
    · simpa only [Estado.setPagina, hdesc q (hexiste q hq)] using hlt q hq

end Nombrar

section Alojar

theorem Sim.sin_entrada_libre (h : Sim E s n) (hk : n.marcos k = none) :
    ∀ t ∈ s.tlbList, t.marco ≠ k := by
  intro t ht hmarco
  have hpid : t.pid ≠ 0 := by
    intro h0
    have := (h.tlb.bien.vacia t ht h0).2
    omega
  obtain ⟨m, hm, hmk, hmpid, -⟩ := h.tlb.bien.marco t ht hpid
  rw [h.marcos] at hm
  obtain ⟨j, -, rfl⟩ := mem_tabla.1 hm
  rw [marcoReal_marco, hmarco, Nat.cast_inj] at hmk
  subst hmk
  rw [hk] at hmpid
  exact hpid hmpid.symm

theorem Sim.ocuparLibre (h : Sim E s n) (hk : n.marcos k = none)
    (hp : Nombrada E.parametros (n.nombre p) (s.descriptor p)) :
    Alojamiento E p
      { s with
        marcosList := tablaDeMarcos E.config.cantidadMarcos n.nombre
          (Function.update n.marcos k (some p)) }
      { n with marcos := Function.update n.marcos k (some p) } k := by
  have hlibre := h.sin_entrada_libre hk
  have htlb : TlbBien E s.tlbList (tablaDeMarcos E.config.cantidadMarcos n.nombre
      (Function.update n.marcos k (some p))) :=
    TlbBien.update_marco (h.marcos ▸ h.tlb.bien) hlibre (some p)
  refine ⟨⟨h.cache, rfl, h.carpinchos, ?_, h.bits, ?_, h.proximoPtr, h.mensajes, h.puntero, h.ramas,
    h.estampas, htlb, h.tlb.fifo⟩, Function.update_self _ _ _, hlibre⟩
  · exact fun q hq => hq.elim (h.nombradas q) fun heq => heq ▸ hp
  · intro q hq hqp
    have hiff : ∀ j, Function.update n.marcos k (some p) j = some q ↔ n.marcos j = some q := by
      intro j
      rcases eq_or_ne j k with rfl | hjk
      · simp [hk, Ne.symm hqp]
      · rw [Function.update_of_ne hjk]
    have hu := h.ubicadas q hq
    exact ⟨hu.presencia.trans (exists_congr fun j => (hiff j).symm),
      fun j hj => hu.marco j ((hiff j).1 hj), fun hj => hu.ausente fun j => mt (hiff j).2 (hj j)⟩

theorem setMarco_idem {nombre : ℕ → ℤ × ℤ} {marcos : ℕ → Option ℕ} {pagina : ℤ}
    (h : s.marcosList = tablaDeMarcos E.config.cantidadMarcos nombre marcos)
    (hk : marcos k = some p) (hp : nombre p = (pid, pagina)) :
    s.setMarco k (Marco.ocupado pid pagina) = s := by
  rw [setMarco_eq (setMarco_ocupado h hp), ← hk, Function.update_eq_self, ← h]

/-- The frame of a new page, after the module has entered the page into it. -/
structure Reservada (E : Entorno) (p : ℕ) (s : Estado) (n : Nucleo) (k : ℕ) : Prop where
  instancia : ∃ o, getMarcoByMarcoNumber k s = some (marcoReal n.nombre k o)
  alojada : Alojamiento E p
    (s.setMarco k (Marco.ocupado (n.nombre p).1 (n.nombre p).2)) n k

theorem marcoParaPaginaNueva_sim (h : Sim E s n) (hb : n.Bien E.parametros)
    (ho : n.OrdenBien E.parametros) (hpid : (n.proceso (n.nombre p).1).isSome)
    (hp : Nombrada E.parametros (n.nombre p) (s.descriptor p)) (hfuera : ∀ j, n.marcos j ≠ some p) :
    Agree
      (marcoParaPaginaNueva E (n.puedeTomarMarco E.parametros (n.nombre p).1) (n.nombre p).1
        (n.nombre p).2 s)
      (n.alojarNueva E.parametros (n.nombre p).1 p)
      (fun r r' => r.1 = r'.1 ∧ Reservada E p r.2 r'.2 r'.1) (fun _ => False) (fun _ => False) := by
  unfold marcoParaPaginaNueva Nucleo.alojarNueva
  cases hpuede : n.puedeTomarMarco E.parametros (n.nombre p).1 with
  | true =>
    rw [if_pos rfl, if_pos rfl, h.getFreeMarco_eq]
    cases hlibre : n.marcoLibre E.parametros with
    | none => exact agree_error _ _
    | some k =>
      obtain ⟨hlt, hk⟩ := Nucleo.marcoLibre_some hlibre
      refine ⟨marcoReal_marco k _, ⟨_, getMarcoByMarcoNumber_tabla h.marcos hlt⟩, ?_⟩
      rw [setMarco_eq (setMarco_ocupado (p := p) h.marcos rfl)]
      exact h.ocuparLibre hk hp
  | false =>
    have hlt := Nucleo.desalojarPara_spec hb (n.nombre p).1 p
    refine ((swampearPaginaWhenCreatePage_sim h hb ho hpid hp hfuera).and_right hlt).mono
      fun r r' hr => ?_
    obtain ⟨⟨heq, haloj⟩, v, m, hd⟩ := hr
    have hnombre : r'.2.nombre = n.nombre := hd.paginas.nombre
    refine ⟨heq, ⟨_, getMarcoByMarcoNumber_tabla haloj.sim.marcos
      (hb.marcos.lt _ v hd.marco)⟩, ?_⟩
    rwa [setMarco_idem haloj.sim.marcos haloj.marco rfl]

end Alojar

section Registrar

theorem Nucleo.registrar_bits_of_ne {π : Parametros} {q : ℕ} (hq : q ≠ p) :
    (n.registrar π pid p).uso q = n.uso q ∧
      (n.registrar π pid p).modificada q = n.modificada q := by
  unfold Nucleo.registrar
  split
  · exact ⟨rfl, rfl⟩
  · exact ⟨Function.update_of_ne hq _ _, Function.update_of_ne hq _ _⟩

theorem Nucleo.registrar_bits {π : Parametros} (hm : π.algoritmoReemplazoMmu = .mClock) :
    (n.registrar π pid p).uso p = true ∧ (n.registrar π pid p).modificada p = false := by
  unfold Nucleo.registrar
  rw [hm]
  exact ⟨Function.update_self _ _ _, Function.update_self _ _ _⟩

theorem Nucleo.registrar_orden {π : Parametros} (hm : π.algoritmoReemplazoMmu = .lru) :
    (n.registrar π pid p).orden = n.orden ++ [p] := by
  unfold Nucleo.registrar
  rw [hm]
  rfl

theorem SimSalvo.registrar (h : SimSalvo E p s n) (hu : Ubicada n.marcos p (s.descriptor p))
    {c : Proceso} (hc : c ∈ n.procesos) (hpid : c.pid = pid)
    (hbits : Bits E.parametros true false (s.descriptor p))
    (hestampas : Estampas E.parametros s.descriptor s.contadorTimestamp
      (n.registrar E.parametros pid p).orden) :
    Sim E (s.setCarpincho pid fun c => { c with paginas := c.paginas ++ [p] })
      (n.registrar E.parametros pid p) := by
  have hexiste : ∀ q, (n.registrar E.parametros pid p).existe q ↔ n.existe q ∨ q = p :=
    fun q => Nucleo.existe_registrar hc hpid
  refine ⟨?_, ?_, ?_, ?_, ?_, ?_, ?_, ?_, ?_, h.ramas, hestampas, ⟨h.tlb.bien, h.tlb.fifo⟩⟩
  · rw [Nucleo.registrar_cache]
    exact h.cache
  · rw [Nucleo.registrar_marcos, Nucleo.registrar_nombre]
    exact h.marcos
  · rw [Nucleo.registrar_procesos, ← h.carpinchos, setCarpincho, List.map_map, List.map_map]
    refine List.map_congr_left fun d _ => ?_
    by_cases hd : d.pid = pid <;> simp [Carpincho.proceso, hd]
  · intro q hq
    rw [Nucleo.registrar_nombre]
    exact h.nombradas q ((hexiste q).1 hq)
  · intro q hq hm
    rcases eq_or_ne q p with rfl | hqp
    · rw [(Nucleo.registrar_bits hm).1, (Nucleo.registrar_bits hm).2]
      exact hbits hm
    · rw [(Nucleo.registrar_bits_of_ne hqp).1, (Nucleo.registrar_bits_of_ne hqp).2]
      exact h.bits q (((hexiste q).1 hq).resolve_right hqp) hm
  · intro q hq
    rw [Nucleo.registrar_marcos]
    rcases eq_or_ne q p with rfl | hqp
    · exact hu
    · exact h.ubicadas q (((hexiste q).1 hq).resolve_right hqp) hqp
  · rw [Nucleo.registrar_proximoPtr]
    exact h.proximoPtr
  · rw [Nucleo.registrar_mensajes]
    exact h.mensajes
  · rw [Nucleo.registrar_puntero]
    exact h.puntero

theorem marcarCreacion_sim (h : SimSalvo E p s n) (hk : n.marcos k = some p)
    (hinj : ∀ j, n.marcos j = some p → j = k) (hpresencia : (s.descriptor p).bitPresencia = true)
    (hmarco : (s.descriptor p).marco = k) {c : Proceso} (hc : c ∈ n.procesos) (hpid : c.pid = pid)
    (hnueva : ¬ n.existe p) (hfresca : E.parametros.algoritmoReemplazoMmu = .lru → p ∉ n.orden) :
    Spec (marcarCreacion E p s)
      (fun s' => Sim E (s'.setCarpincho pid fun c => { c with paginas := c.paginas ++ [p] })
        (n.registrar E.parametros pid p)) EsDesbordamiento := by
  have hn := h.nombradas p (Or.inr rfl)
  have hself : ∀ (s : Estado) (f : Pagina → Pagina),
      (s.setPagina p f).descriptor p = f (s.descriptor p) := fun _ _ => Function.update_self _ _ _
  unfold marcarCreacion
  cases hmmu : E.config.algoritmoReemplazoMmu with
  | mClock =>
    have hno : E.parametros.algoritmoReemplazoMmu ≠ .lru := by
      rw [show E.parametros.algoritmoReemplazoMmu = E.config.algoritmoReemplazoMmu from rfl, hmmu]
      decide
    have hsalvo := h.setPagina
      (f := fun q => { q with bitDeUso := true, bitDeModificacion := false })
      ⟨hn.pid, hn.pagina, hn.viva, fun hlru => absurd hlru hno⟩ (fun hp => absurd hp hnueva)
      fun hlru => absurd hlru hno
    refine hsalvo.registrar ?_ hc hpid ?_ fun hlru => absurd hlru hno
    · rw [hself]
      exact ubicada_of hk hinj hpresencia hmarco
    · rw [hself]
      exact fun _ => ⟨rfl, rfl⟩
  | lru =>
    have hno : E.parametros.algoritmoReemplazoMmu ≠ .mClock := by
      rw [show E.parametros.algoritmoReemplazoMmu = E.config.algoritmoReemplazoMmu from rfl, hmmu]
      decide
    obtain ⟨hsorted, hlt⟩ := h.estampas hmmu
    refine (obtenerTimeStamp_spec s).bind fun r hr => ?_
    obtain ⟨ts, s₁⟩ := r
    obtain ⟨rfl, rfl⟩ := hr
    have hmas : SimSalvo E p { s with contadorTimestamp := s.contadorTimestamp + 1 } n :=
      ⟨h.cache, h.marcos, h.carpinchos, h.nombradas, h.bits, h.ubicadas, h.proximoPtr, h.mensajes,
        h.puntero, h.ramas, fun _ => ⟨hsorted, fun q hq => Nat.lt_succ_of_lt (hlt q hq)⟩,
        ⟨h.tlb.bien, h.tlb.fifo⟩⟩
    let f : Pagina → Pagina := fun q => { q with timestamp := s.contadorTimestamp }
    have hviejas : ∀ q ∈ n.orden, (s.setPagina p f).descriptor q = s.descriptor q := by
      intro q hq
      refine Function.update_of_ne (fun heq => hfresca hmmu ?_) _ _
      rwa [← heq]
    have hnueva' : ((s.setPagina p f).descriptor p).timestamp = s.contadorTimestamp := by
      rw [hself]
    have hordenada : n.orden.Pairwise fun a b => ((s.setPagina p f).descriptor a).timestamp <
        ((s.setPagina p f).descriptor b).timestamp := by
      refine hsorted.imp_of_mem fun {a b} ha hb hab => ?_
      rw [hviejas a ha, hviejas b hb]
      exact hab
    have hviejas' : ∀ q ∈ n.orden,
        ((s.setPagina p f).descriptor q).timestamp < s.contadorTimestamp := by
      intro q hq
      rw [hviejas q hq]
      exact hlt q hq
    have hsalvo := hmas.setPagina (f := f)
      ⟨hn.pid, hn.pagina, hn.viva, hn.limpia⟩ (fun _ hm => absurd hm hno)
      fun _ => ⟨hordenada, fun q hq => Nat.lt_succ_of_lt (hviejas' q hq)⟩
    refine hsalvo.registrar ?_ hc hpid (fun hm => absurd hm hno) fun _ => ?_
    · rw [hself]
      exact ubicada_of hk hinj hpresencia hmarco
    · rw [Nucleo.registrar_orden hmmu]
      refine ⟨List.pairwise_append.2 ⟨hordenada, List.pairwise_singleton _ _, ?_⟩, ?_⟩
      · intro a ha b hb
        rw [List.mem_singleton.1 hb]
        exact lt_of_lt_of_eq (hviejas' a ha) hnueva'.symm
      · intro q hq
        rcases List.mem_append.1 hq with hq | hq
        · exact Nat.lt_succ_of_lt (hviejas' q hq)
        · rw [List.mem_singleton.1 hq]
          exact lt_of_eq_of_lt hnueva' (Nat.lt_succ_self _)

end Registrar

section Crear

theorem createPagina_sim (h : Sim E s n) (hb : n.Bien E.parametros)
    (ho : n.OrdenBien E.parametros) (hpid : (n.proceso pid).isSome) :
    Agree (createPagina E pid s) (n.crear E.parametros pid)
      (fun r r' => r.1 = r'.1 ∧ Sim E r.2 r'.2) EsDesbordamiento EsRechazo := by
  obtain ⟨c, hc⟩ : ∃ c, getCarpincho pid s = some c := by
    rw [← h.getCarpincho_proceso, Option.isSome_map] at hpid
    exact Option.isSome_iff_exists.1 hpid
  have hproceso : n.proceso pid = some c.proceso := by
    rw [← h.getCarpincho_proceso, hc]
    rfl
  obtain ⟨hcmem, hcpid⟩ := Nucleo.proceso_some hproceso
  obtain rfl : c.pid = pid := hcpid
  have hpid0 : c.pid ≠ 0 := hb.tablas.pid_ne _ hcmem
  have hsim := h.nombrar hb ho c.pid (c.paginas.length + 1)
  have hbien : (n.nombrar c.pid (c.paginas.length + 1 : ℕ)).Bien E.parametros :=
    Nucleo.nombrar_bien hb
  have hnombre : (n.nombrar c.pid (c.paginas.length + 1 : ℕ)).nombre n.proximoPtr =
      (c.pid, ((c.paginas.length + 1 : ℕ) : ℤ)) := Function.update_self _ _ _
  have horden : (n.nombrar c.pid (c.paginas.length + 1 : ℕ)).OrdenBien E.parametros := ho
  have hnueva : ¬ (n.nombrar c.pid (c.paginas.length + 1 : ℕ)).existe n.proximoPtr :=
    Nucleo.no_existe_proximoPtr hb.tablas
  have hfuera : ∀ j, (n.nombrar c.pid (c.paginas.length + 1 : ℕ)).marcos j ≠ some n.proximoPtr :=
    fun j hj => hnueva (hbien.marcos.existe j _ hj)
  have hprocesob : (n.nombrar c.pid (c.paginas.length + 1 : ℕ)).proceso c.pid =
    some c.proceso := hproceso
  have hpuede := (h.canCarpinchoAddMarcoToPage_eq hb hpid0).trans (congrArg Except.ok
    (Nucleo.puedeTomarMarco_nombrar hb c.pid (c.paginas.length + 1 : ℕ) c.pid).symm)
  unfold createPagina Nucleo.crear
  simp only [hc, hproceso]
  rw [show canCarpinchoAddMarcoToPage E c { s with proximoPtr := s.proximoPtr + 1 } =
    canCarpinchoAddMarcoToPage E c s from rfl, hpuede, ok_bind]
  rw [show ((c.proceso.paginas.length : ℤ) + 1) = ((c.paginas.length + 1 : ℕ) : ℤ) from
    (Nat.cast_succ _).symm]
  generalize (n.nombrar c.pid (c.paginas.length + 1 : ℕ)) = b at *
  generalize c.paginas.length + 1 = numero at *
  have hnombrada : Nombrada E.parametros (b.nombre n.proximoPtr)
      ((({ s with proximoPtr := s.proximoPtr + 1 } : Estado).setPagina s.proximoPtr
        fun _ => paginaNueva c.pid numero).descriptor n.proximoPtr) := by
    rw [hnombre, h.proximoPtr]
    simp only [Estado.setPagina, Function.update_self]
    exact ⟨rfl, rfl, rfl, fun _ => ⟨rfl, rfl⟩⟩
  have hmarco := marcoParaPaginaNueva_sim (p := n.proximoPtr) hsim hbien horden
    (by rw [hnombre, hprocesob]; rfl) hnombrada hfuera
  rw [hnombre] at hmarco
  rw [h.proximoPtr] at hmarco ⊢
  refine ((hmarco.and_right (Nucleo.alojarNueva_spec hbien c.pid n.proximoPtr)).excuse
    (fun _ he => he.elim) fun _ he => he.elim).bind fun r r' hr => ?_
  obtain ⟨marco, s₁⟩ := r
  obtain ⟨k, n₁⟩ := r'
  obtain ⟨⟨rfl, ⟨o, hinstancia⟩, haloj⟩, halojada⟩ := hr
  have hnombre₁ : n₁.nombre n.proximoPtr = (c.pid, (numero : ℤ)) := by
    rw [show n₁.nombre = b.nombre from halojada.paginas.nombre, hnombre]
  have hinj : ∀ j, n₁.marcos j = some n.proximoPtr → j = k := by
    intro j hj
    by_contra hjk
    rw [show n₁.marcos = _ from halojada.marcos, Function.update_of_ne hjk] at hj
    exact hfuera j hj
  have hnueva₁ : ¬ n₁.existe n.proximoPtr :=
    fun hex => hnueva ((Nucleo.existe_of_map_eq halojada.paginas.procesos).1 hex)
  have hfresca : E.parametros.algoritmoReemplazoMmu = .lru → n.proximoPtr ∉ n₁.orden := by
    intro hlru hin
    obtain ⟨j, -, hj⟩ := Nucleo.mem_residentes.1
      (((horden hlru).2 _).1 (halojada.mem_orden hin))
    exact hfuera j hj
  obtain ⟨d, hd, hdpid, -⟩ := Nucleo.exists_proceso_of_map_eq halojada.paginas.procesos.symm
    (Nucleo.proceso_some hprocesob).1
  rw [hnombre₁] at haloj
  have hubicada := haloj.sim.setUbicacion
    (f := fun q => { q with marco := (k : ℤ), bitPresencia := true }) ⟨rfl, rfl, rfl, rfl, rfl, rfl⟩
  have haloj₂ : Alojamiento E n.proximoPtr _ n₁ k := ⟨hubicada, haloj.marco, haloj.libre⟩
  simp only [hinstancia, marcoReal_marco]
  refine Agree.bind_left (actualizarTlb_sim haloj₂ (halojada.lt hbien) (by rwa [hnombre₁]))
    fun s₂ hs₂ => ?_
  have hdesc : s₂.descriptor n.proximoPtr = { s₁.descriptor n.proximoPtr with
      marco := (k : ℤ), bitPresencia := true } := by
    rw [hs₂.2.2]
    exact Function.update_self _ _ _
  refine Agree.bind_left (marcarCreacion_sim hs₂.1 haloj.marco hinj (by rw [hdesc]) (by rw [hdesc])
    hd hdpid hnueva₁ hfresca) fun s₃ hs₃ => ?_
  exact ⟨rfl, hs₃⟩

end Crear

section Paso

theorem buscarPagina_eq (h : Sim E s n) (pid pagina : ℤ) :
    buscarPagina pid pagina s = n.buscar pid pagina := by
  unfold buscarPagina getPageByInts Nucleo.buscar
  have hproceso := h.getCarpincho_proceso pid
  cases hc : getCarpincho pid s with
  | none =>
    rw [hc, Option.map_none] at hproceso
    simp only [← hproceso]
  | some c =>
    rw [hc, Option.map_some] at hproceso
    obtain ⟨hcmem, hcpid⟩ := Nucleo.proceso_some hproceso.symm
    have hcpid' : c.pid = pid := hcpid
    have hexiste : ∀ q ∈ c.paginas, n.existe q := fun q hq => ⟨c.proceso, hcmem, hq⟩
    have hfind : (c.paginas.find? fun q => decide
        ((s.descriptor q).carpinchoPid = c.pid ∧ (s.descriptor q).pagina = pagina)) =
        c.proceso.paginas.find? fun q => decide (n.nombre q = (pid, pagina)) := by
      refine List.find?_congr fun q hq => ?_
      have hn := h.nombradas q (hexiste q hq)
      simp only [hn.pid, hn.pagina, hcpid', Prod.ext_iff]
    simp only [← hproceso, getPage, h.paginasLegibles hexiste, ok_bind, hfind]
    cases c.proceso.paginas.find? fun q => decide (n.nombre q = (pid, pagina)) <;> rfl

theorem existCarpincho_eq (h : Sim E s n) (pid : ℤ) :
    existCarpincho pid s = n.procesos.any fun c => decide (c.pid = pid) := by
  rw [existCarpincho, ← h.carpinchos, List.any_map]
  rfl

theorem createCarpincho_sim (h : Sim E s n) (pid : ℤ) :
    Sim E (createCarpincho pid s) (n.crearProceso pid) := by
  unfold createCarpincho Nucleo.crearProceso
  rw [existCarpincho_eq h]
  split
  · exact h
  · have hexiste : ∀ q, Nucleo.existe { n with procesos := n.procesos ++
        [{ pid := pid, puntero := 0, paginas := [] }] } q ↔ n.existe q := by
      intro q
      simp [Nucleo.existe]
    refine ⟨h.cache, h.marcos, ?_, ?_, ?_, ?_, h.proximoPtr, h.mensajes, h.puntero, h.ramas,
      h.estampas, ⟨h.tlb.bien, h.tlb.fifo⟩⟩
    · simp only [List.map_append, h.carpinchos]
      rfl
    · exact fun q hq => h.nombradas q ((hexiste q).1 hq)
    · exact fun q hq => h.bits q ((hexiste q).1 hq)
    · exact fun q hq => h.ubicadas q ((hexiste q).1 hq)

/-- The state of the module represents a state that keeps the invariant. -/
structure Representa (E : Entorno) (s : Estado) (n : Nucleo) : Prop where
  sim : Sim E s n
  bien : n.Bien E.parametros
  orden : n.OrdenBien E.parametros

/-- One call on both sides. -/
theorem paso_sim (h : Representa E s n) {op : Operacion}
    (hop : Nucleo.Admisible op) :
    Agree (paso E op s) (n.paso E.parametros op)
      (fun r r' => r.1 = r'.1 ∧ Representa E r.2 r'.2) EsDesbordamiento EsRechazo := by
  suffices hpaso : Agree (paso E op s) (n.paso E.parametros op)
      (fun r r' => r.1 = r'.1 ∧ Sim E r.2 r'.2) EsDesbordamiento EsRechazo from
    (hpaso.and_right (Nucleo.paso_spec h.bien h.orden hop)).mono
      fun r r' hr => ⟨hr.1.1, hr.1.2, hr.2.1, hr.2.2⟩
  obtain ⟨hsim, hb, ho⟩ := h
  cases op with
  | createCarpincho pid => exact ⟨rfl, createCarpincho_sim hsim pid⟩
  | createPagina pid =>
    unfold paso Nucleo.paso
    simp only [existCarpincho_eq hsim]
    cases hany : n.procesos.any fun c => decide (c.pid = pid) with
    | false =>
      have hnone : n.proceso pid = none := by
        rw [Nucleo.proceso, List.find?_eq_none]
        simpa using hany
      simp only [Bool.false_eq_true, if_false, Nucleo.crear, hnone]
      exact agree_error _ _
    | true =>
      have hsome : (n.proceso pid).isSome := by
        rw [Nucleo.proceso, List.find?_isSome]
        simpa using hany
      simp only [if_true]
      refine (createPagina_sim hsim hb ho hsome).bind fun r r' hr => ?_
      exact ⟨congrArg Resultado.pagina hr.1, hr.2⟩
  | leerEnPagina pid pagina tamanio offset =>
    unfold paso Nucleo.paso
    simp only [buscarPagina_eq hsim]
    have hbuscar := Nucleo.buscar_spec (n := n) pid pagina
    cases hp : n.buscar pid pagina with
    | error e => exact agree_error _ _
    | ok p =>
      rw [hp] at hbuscar
      refine (leerEnPagina_sim hsim hb ho hbuscar.1 tamanio offset).bind fun r r' hr => ?_
      exact ⟨congrArg Resultado.bytes hr.1, hr.2⟩
  | escribirEnPagina pid pagina buffer offset =>
    unfold paso Nucleo.paso
    simp only [buscarPagina_eq hsim]
    have hbuscar := Nucleo.buscar_spec (n := n) pid pagina
    cases hp : n.buscar pid pagina with
    | error e => exact agree_error _ _
    | ok p =>
      rw [hp] at hbuscar
      refine (escribirEnPagina_sim hsim hb ho hbuscar.1 buffer offset).bind fun r r' hr => ?_
      exact ⟨congrArg Resultado.codigo hr.1, hr.2⟩

end Paso

section Corrida

theorem createMarcos_eq (cfg : Config) :
    createMarcos cfg = tablaDeMarcos cfg.cantidadMarcos Nucleo.inicial.nombre
      Nucleo.inicial.marcos := by
  unfold createMarcos tablaDeMarcos
  exact List.map_congr_left fun _ _ => rfl

theorem createTlb_bien (marcos : List Marco) : TlbBien E (createTlb E.config) marcos := by
  have hvacia : ∀ t ∈ createTlb E.config, t.pid = 0 ∧ t.pagina = 0 ∧ t.marco = -1 := by
    intro t ht
    obtain ⟨i, -, rfl⟩ := List.mem_map.1 ht
    exact ⟨rfl, rfl, rfl⟩
  refine ⟨by simp [createTlb], ?_, fun t ht _ => (hvacia t ht).2,
    fun t ht h0 => absurd (hvacia t ht).1 h0, fun t ht u _ h0 _ _ => absurd (hvacia t ht).1 h0⟩
  have hentradas : (createTlb E.config).map Tlb.entrada =
      List.range E.config.cantidaEntradasTlb := by
    rw [createTlb, List.map_map]
    exact List.map_id _
  rw [hentradas]
  exact List.nodup_range

theorem inicializarMemoria_representa (hentradas : 0 < E.config.cantidaEntradasTlb)
    (basura : ℕ → Pagina) :
    Representa E (inicializarMemoria E.config basura) Nucleo.inicial := by
  have hno : ∀ p, ¬ Nucleo.inicial.existe p := by
    rintro p ⟨c, hc, -⟩
    exact absurd hc (by simp [Nucleo.inicial])
  refine ⟨⟨rfl, createMarcos_eq E.config, rfl, fun p hp => absurd hp (hno p),
    fun p hp => absurd hp (hno p), fun p hp => absurd hp (hno p), rfl, rfl, rfl, rfl, ?_,
    ⟨createTlb_bien _, hentradas⟩⟩, Nucleo.inicial_bien, Nucleo.inicial_ordenBien⟩
  exact fun _ => ⟨List.Pairwise.nil, fun p hp => absurd hp (by simp [Nucleo.inicial])⟩

/-- Every run of the module agrees with the run of the machine without TLB. -/
theorem corrida_sim (hentradas : 0 < E.config.cantidaEntradasTlb) (basura : ℕ → Pagina)
    {ops : List Operacion} (hops : ∀ op ∈ ops, Nucleo.Admisible op) :
    Agree (run (paso E) ops (inicializarMemoria E.config basura))
      (run (Nucleo.paso E.parametros) ops Nucleo.inicial)
      (fun r r' => r.1 = r'.1 ∧ Representa E r.2 r'.2) EsDesbordamiento EsRechazo := by
  have hpaso : ∀ op s n, Nucleo.Admisible op → Representa E s n →
      Agree (paso E op s) (n.paso E.parametros op)
        (fun r r' => r.1 = r'.1 ∧ Representa E r.2 r'.2) EsDesbordamiento EsRechazo :=
    fun _ _ _ hop h => paso_sim h hop
  exact run_agreement hpaso ops _ _ hops (inicializarMemoria_representa hentradas basura)

end Corrida

end Carpinchos.Memoria
