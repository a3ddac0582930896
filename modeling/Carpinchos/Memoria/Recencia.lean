import Carpinchos.Memoria.Coherencia

/-!
# The page that LRU evicts

The uses of pages in a run are read off its calls: a page is used when it is created, read
or written. Under LRU the order of last use that the machine without TLB keeps is the order
of the last places in that history, and the page that leaves the memory is the first one of
that order among those it may be chosen from.
-/

namespace Carpinchos.Memoria

open Outcome Runs Replacement

section Historia

def esCreacionDe (pid : ℤ) : Operacion → Bool
  | .createPagina pid' => decide (pid' = pid)
  | _ => false

/-- The page that a call uses after the calls `previas`, by its pid and its number. -/
def usoDe (previas : List Operacion) : Operacion → Option (ℤ × ℤ)
  | .createCarpincho _ => none
  | .createPagina pid => some (pid, (previas.countP (esCreacionDe pid) : ℤ) + 1)
  | .leerEnPagina pid pagina _ _ => some (pid, pagina)
  | .escribirEnPagina pid pagina _ _ => some (pid, pagina)

def pidDe : Operacion → ℤ
  | .createCarpincho pid => pid
  | .createPagina pid => pid
  | .leerEnPagina pid _ _ _ => pid
  | .escribirEnPagina pid _ _ _ => pid

def usosTras (previas : List Operacion) : List Operacion → List (ℤ × ℤ)
  | [] => []
  | op :: ops => (usoDe previas op).toList ++ usosTras (previas ++ [op]) ops

/-- The creations, reads and writes of pages in a run, in order. -/
def usos (ops : List Operacion) : List (ℤ × ℤ) := usosTras [] ops

theorem usosTras_append (previas ops : List Operacion) (op : Operacion) :
    usosTras previas (ops ++ [op]) =
      usosTras previas ops ++ (usoDe (previas ++ ops) op).toList := by
  induction ops generalizing previas with
  | nil => simp [usosTras]
  | cons op' ops ih => simp [usosTras, ih]

theorem usos_append (ops : List Operacion) (op : Operacion) :
    usos (ops ++ [op]) = usos ops ++ (usoDe ops op).toList := by
  rw [usos, usosTras_append, List.nil_append]
  rfl

end Historia

namespace Nucleo

variable {π : Parametros} {n n' : Nucleo} {pid : ℤ} {p k : ℕ}

section Definiciones

def paginasDe (pid : ℤ) (n : Nucleo) : List ℕ := ((n.proceso pid).map Proceso.paginas).getD []

/-- The page that leaves the memory, if one does, is the candidate that has gone unused
for longest. -/
def DesalojaLaPrimera (π : Parametros) (pid : ℤ) (n n' : Nucleo) : Prop :=
  ∀ v ∈ n.residentes π, v ∉ n'.residentes π →
    ∃ resto, (n.orden.filter fun p => decide (p ∈ n.candidatos π pid)) = v :: resto

/-- Room has been made for a page of the carpincho. -/
structure Alojo (π : Parametros) (pid : ℤ) (n n' : Nucleo) : Prop where
  nombre : n'.nombre = n.nombre
  orden : n'.orden.Sublist n.orden
  victima : DesalojaLaPrimera π pid n n'

structure Usada (π : Parametros) (pid : ℤ) (u : ℤ × ℤ) (n n' : Nucleo) : Prop where
  orden : ∃ ord p, n'.orden = ord ++ [p] ∧ ord.Sublist n.orden ∧ n'.nombre p = u ∧
    ∀ q ∈ ord, n'.nombre q = n.nombre q ∧ n.nombre q ≠ u
  nombre : ∀ q, n.existe q → n'.nombre q = n.nombre q
  victima : DesalojaLaPrimera π pid n n'

/-- The order of last use is the order in the history of the run. -/
structure Historial (π : Parametros) (ops : List Operacion) (n : Nucleo) : Prop where
  bien : n.Bien π
  orden : n.OrdenBien π
  creadas : ∀ pid, (n.paginasDe pid).length = ops.countP (esCreacionDe pid)
  recientes : n.orden.Pairwise fun p q =>
    lastUse (n.nombre p) (usos ops) < lastUse (n.nombre q) (usos ops)

end Definiciones

section Alojo

theorem DesalojaLaPrimera.of_marcos_subset
    (h : ∀ v ∈ n.residentes π, v ∈ n'.residentes π) : DesalojaLaPrimera π pid n n' :=
  fun v hv hno => absurd (h v hv) hno

theorem desalojarPara_lru (hlru : π.algoritmoReemplazoMmu = .lru)
    (hr : n.desalojarPara π pid p = .ok (k, n')) : Alojo π pid n n' := by
  unfold desalojarPara elegir elegirLru at hr
  rw [hlru] at hr
  cases hfilter : n.orden.filter fun p => decide (p ∈ n.candidatos π pid) with
  | nil => simp [hfilter] at hr
  | cons v resto =>
    simp only [hfilter, ok_bind] at hr
    cases hk : n.marcoDe π v with
    | none => simp [hk] at hr
    | some j =>
      simp only [hk, Except.ok.injEq, Prod.mk.injEq] at hr
      obtain ⟨rfl, rfl⟩ := hr
      refine ⟨reemplazar_nombre v j p, ?_, ?_⟩
      · rw [reemplazar_orden]
        exact List.erase_sublist
      · intro w hw hno
        obtain ⟨i, hi, hwi⟩ := mem_residentes.1 hw
        have hij : i = j := by
          by_contra hne
          apply hno
          rw [mem_residentes, reemplazar_marcos]
          exact ⟨i, hi, by rw [Function.update_of_ne hne, hwi]⟩
        obtain rfl : w = v := by
          have hvj := (marcoDe_some hk).2
          rw [hij, hvj] at hwi
          exact (Option.some.inj hwi).symm
        exact ⟨resto, hfilter⟩

theorem traer_lru (hlru : π.algoritmoReemplazoMmu = .lru)
    (hr : n.traer π p = .ok (k, n')) : Alojo π (n.nombre p).1 n n' := by
  unfold traer at hr
  cases hk : n.marcoDe π p with
  | some j =>
    simp only [hk, Except.ok.injEq, Prod.mk.injEq] at hr
    obtain ⟨-, rfl⟩ := hr
    exact ⟨rfl, List.Sublist.refl _, .of_marcos_subset fun _ hv => hv⟩
  | none =>
    simp only [hk] at hr
    unfold recuperar at hr
    obtain ⟨⟨j, m⟩, hm, hr⟩ := bind_eq_ok.1 hr
    have halojo := desalojarPara_lru hlru hm
    simp only at hr
    split at hr
    · cases hr
    · obtain ⟨-, rfl⟩ : j = k ∧ _ = n' := by simpa using hr
      exact ⟨halojo.nombre, halojo.orden, halojo.victima⟩

theorem alojarNueva_lru (hlru : π.algoritmoReemplazoMmu = .lru)
    (hr : n.alojarNueva π pid p = .ok (k, n')) : Alojo π pid n n' := by
  unfold alojarNueva at hr
  split at hr
  · cases hk : n.marcoLibre π with
    | none => simp [hk] at hr
    | some j =>
      simp only [hk, Except.ok.injEq, Prod.mk.injEq] at hr
      obtain ⟨-, rfl⟩ := hr
      refine ⟨rfl, List.Sublist.refl _, .of_marcos_subset fun v hv => ?_⟩
      obtain ⟨i, hi, hvi⟩ := mem_residentes.1 hv
      have hne : i ≠ j := by
        rintro rfl
        rw [(marcoLibre_some hk).2] at hvi
        cases hvi
      exact mem_residentes.2 ⟨i, hi, by simp only [Function.update_of_ne hne, hvi]⟩
  · exact desalojarPara_lru hlru hr

end Alojo

section Uso

theorem Alojo.marcar {m : Nucleo} (h : Alojo π (n.nombre p).1 n m)
    (hlru : π.algoritmoReemplazoMmu = .lru) (hb : n.Bien π) (ho : n.OrdenBien π)
    (hp : n.existe p) (hnombre : n'.nombre = m.nombre) (hmarcos : n'.marcos = m.marcos)
    (horden : n'.orden = touch p m.orden) : Usada π (n.nombre p).1 (n.nombre p) n n' := by
  obtain ⟨hnodup, hmem⟩ := ho hlru
  refine ⟨⟨m.orden.erase p, p, horden, List.erase_sublist.trans h.orden, ?_, ?_⟩,
    fun q _ => by rw [hnombre, h.nombre], ?_⟩
  · rw [hnombre, h.nombre]
  · intro q hq
    have hqm := (hnodup.sublist h.orden).mem_erase_iff.1 hq
    refine ⟨by rw [hnombre, h.nombre], fun heq => hqm.1 ?_⟩
    obtain ⟨i, -, hi⟩ := mem_residentes.1 ((hmem q).1 (h.orden.subset hqm.2))
    exact hb.tablas.nombre_inj (hb.marcos.existe i q hi) hp heq
  · intro v hv hno
    apply h.victima v hv
    intro hvm
    apply hno
    rw [mem_residentes, hmarcos]
    exact mem_residentes.1 hvm

theorem leer_eq {tamanio offset : ℕ} {r : Option (List UInt8)}
    (hr : n.leer π p tamanio offset = .ok (r, n')) :
    ∃ k m, n.traer π p = .ok (k, m) ∧ n' = m.marcar π false p := by
  obtain ⟨⟨k, m⟩, hm, hr⟩ := bind_eq_ok.1 hr
  refine ⟨k, m, hm, ?_⟩
  dsimp only at hr
  cases halcance : alcance π.tamanioPagina offset tamanio <;> rw [halcance] at hr <;>
    simp at hr <;> exact hr.2.symm

theorem escribir_eq {buffer : List UInt8} {offset : ℕ} {r : ℤ}
    (hr : n.escribir π p buffer offset = .ok (r, n')) :
    ∃ k m cache, n.traer π p = .ok (k, m) ∧ n' = { m with cache := cache }.marcar π true p := by
  obtain ⟨⟨k, m⟩, hm, hr⟩ := bind_eq_ok.1 hr
  dsimp only at hr
  cases halcance : alcance π.tamanioPagina offset buffer.length <;> rw [halcance] at hr <;>
    simp at hr
  · exact ⟨k, m, _, hm, hr.2.symm⟩
  · exact ⟨k, m, m.cache, hm, hr.2.symm⟩

theorem leer_lru (hlru : π.algoritmoReemplazoMmu = .lru) (hb : n.Bien π) (ho : n.OrdenBien π)
    (hp : n.existe p) {tamanio offset : ℕ} {r : Option (List UInt8)}
    (hr : n.leer π p tamanio offset = .ok (r, n')) :
    Usada π (n.nombre p).1 (n.nombre p) n n' := by
  obtain ⟨k, m, hm, rfl⟩ := leer_eq hr
  apply (traer_lru hlru hm).marcar hlru hb ho hp (marcar_paginas false p).nombre
    (marcar_marcos false p)
  rw [Nucleo.marcar, hlru]

theorem escribir_lru (hlru : π.algoritmoReemplazoMmu = .lru) (hb : n.Bien π)
    (ho : n.OrdenBien π) (hp : n.existe p) {buffer : List UInt8} {offset : ℕ} {r : ℤ}
    (hr : n.escribir π p buffer offset = .ok (r, n')) :
    Usada π (n.nombre p).1 (n.nombre p) n n' := by
  obtain ⟨k, m, cache, hm, rfl⟩ := escribir_eq hr
  have halojo : Alojo π (n.nombre p).1 n { m with cache := cache } :=
    ⟨(traer_lru hlru hm).nombre, (traer_lru hlru hm).orden, (traer_lru hlru hm).victima⟩
  apply halojo.marcar hlru hb ho hp (marcar_paginas true p).nombre (marcar_marcos true p)
  rw [Nucleo.marcar, hlru]

theorem Tablas.nombre_siguiente (h : n.Tablas) {q : ℕ} (hq : n.existe q) :
    n.nombre q ≠ (pid, ((n.paginasDe pid).length : ℤ) + 1) := by
  intro heq
  obtain ⟨c, hc, hcmem, hqc⟩ := h.existe_proceso hq
  obtain ⟨i, hi, rfl⟩ := List.getElem_of_mem hqc
  rw [h.nombre c hcmem i hi, Prod.mk.injEq] at heq
  rw [h.nombre c hcmem i hi, heq.1] at hc
  rw [paginasDe, hc] at heq
  have hlen : (i : ℤ) + 1 = (c.paginas.length : ℤ) + 1 := heq.2
  omega

theorem crear_lru (hlru : π.algoritmoReemplazoMmu = .lru) (hb : n.Bien π) (ho : n.OrdenBien π)
    (hr : n.crear π pid = .ok (p, n')) :
    Usada π pid (pid, ((n.paginasDe pid).length : ℤ) + 1) n n' := by
  unfold crear at hr
  cases hc : n.proceso pid with
  | none => simp [hc] at hr
  | some c =>
    simp only [hc] at hr
    obtain ⟨⟨k, m⟩, hm, hr⟩ := bind_eq_ok.1 hr
    obtain ⟨rfl, rfl⟩ : n.proximoPtr = p ∧ m.registrar π pid n.proximoPtr = n' := by
      simpa using hr
    have halojo := alojarNueva_lru hlru hm
    have hpaginas : n.paginasDe pid = c.paginas := by rw [paginasDe, hc]; rfl
    have hexiste : ∀ q ∈ n.orden, n.existe q := by
      intro q hq
      obtain ⟨i, -, hi⟩ := mem_residentes.1 (((ho hlru).2 q).1 hq)
      exact hb.marcos.existe i q hi
    have hnombre : (m.registrar π pid n.proximoPtr).nombre =
        (n.nombrar pid (c.paginas.length + 1)).nombre := registrar_nombre.trans halojo.nombre
    refine ⟨⟨m.orden, n.proximoPtr, ?_, halojo.orden, ?_, ?_⟩, fun q hq => ?_, ?_⟩
    · rw [registrar, hlru]
      rfl
    · rw [hnombre, hpaginas]
      exact Function.update_self _ _ _
    · intro q hq
      have hq' := hexiste q (halojo.orden.subset hq)
      rw [hnombre, nombrar_nombre_of_existe hb hq']
      exact ⟨rfl, hb.tablas.nombre_siguiente hq'⟩
    · rw [hnombre, nombrar_nombre_of_existe hb hq]
    · intro v hv hno
      rw [← candidatos_nombrar hb pid (c.paginas.length + 1) pid]
      apply halojo.victima v hv
      intro hvm
      apply hno
      rw [mem_residentes, registrar_marcos]
      exact mem_residentes.1 hvm

end Uso

section Corrida

theorem proceso_paginas_of_map_eq (h : n'.procesos.map (fun c => (c.pid, c.paginas)) =
    n.procesos.map fun c => (c.pid, c.paginas)) (pid : ℤ) :
    (n'.proceso pid).map Proceso.paginas = (n.proceso pid).map Proceso.paginas := by
  have hfind : ∀ l : List Proceso, (l.find? fun c => decide (c.pid = pid)).map Proceso.paginas =
      ((l.map fun c => (c.pid, c.paginas)).find? fun c => decide (c.1 = pid)).map Prod.snd := by
    intro l
    rw [List.find?_map, Option.map_map]
    rfl
  rw [proceso, proceso, hfind, hfind, h]

theorem paginasDe_of_map_eq (h : n'.procesos.map (fun c => (c.pid, c.paginas)) =
    n.procesos.map fun c => (c.pid, c.paginas)) (pid : ℤ) : n'.paginasDe pid = n.paginasDe pid := by
  rw [paginasDe, paginasDe, proceso_paginas_of_map_eq h]

theorem proceso_registrar (pid' : ℤ) :
    (n.registrar π pid p).proceso pid' = (n.proceso pid').map fun c =>
      if c.pid = pid then { c with paginas := c.paginas ++ [p] } else c := by
  rw [proceso, registrar_procesos, List.find?_map, proceso]
  congr 2
  funext c
  by_cases hc : c.pid = pid <;> simp [hc]

/-- A use of a page keeps the order of last use in step with the history. -/
theorem Usada.recientes {ops : List Operacion} {op : Operacion} {u : ℤ × ℤ}
    (h : Usada π pid u n n') (hu : usoDe ops op = some u)
    (hrecientes : n.orden.Pairwise fun p q =>
      lastUse (n.nombre p) (usos ops) < lastUse (n.nombre q) (usos ops)) :
    n'.orden.Pairwise fun p q =>
      lastUse (n'.nombre p) (usos (ops ++ [op])) < lastUse (n'.nombre q) (usos (ops ++ [op])) := by
  obtain ⟨ord, p, horden, hsub, hp, hord⟩ := h.orden
  have husos : usos (ops ++ [op]) = usos ops ++ [u] := by rw [usos_append, hu]; rfl
  have hviejo : ∀ q ∈ ord, lastUse (n'.nombre q) (usos (ops ++ [op])) =
      lastUse (n.nombre q) (usos ops) := by
    intro q hq
    rw [(hord q hq).1, husos, lastUse_append_of_ne (hord q hq).2]
  rw [horden]
  refine List.pairwise_append.2 ⟨?_, List.pairwise_singleton _ _, ?_⟩
  · refine (hrecientes.sublist hsub).imp_of_mem fun {a b} ha hb hab => ?_
    rw [hviejo a ha, hviejo b hb]
    exact hab
  · intro a ha b hb
    obtain rfl := List.mem_singleton.1 hb
    rw [hviejo a ha, hp, husos, lastUse_append_self]
    exact Nat.lt_succ_of_le (lastUse_le _ _)

theorem leer_paginas (hb : n.Bien π) (ho : n.OrdenBien π) (hp : n.existe p) {tamanio offset : ℕ}
    {r : Option (List UInt8)} (hr : n.leer π p tamanio offset = .ok (r, n')) (pid : ℤ) :
    n'.paginasDe pid = n.paginasDe pid := by
  obtain ⟨k, m, hm, rfl⟩ := leer_eq hr
  apply paginasDe_of_map_eq
  rw [(marcar_paginas false p).procesos]
  exact ((traer_spec hb ho hp).post_of_eq hm).paginas.procesos

theorem escribir_paginas (hb : n.Bien π) (ho : n.OrdenBien π) (hp : n.existe p)
    {buffer : List UInt8} {offset : ℕ} {r : ℤ}
    (hr : n.escribir π p buffer offset = .ok (r, n')) (pid : ℤ) :
    n'.paginasDe pid = n.paginasDe pid := by
  obtain ⟨k, m, cache, hm, rfl⟩ := escribir_eq hr
  apply paginasDe_of_map_eq
  rw [(marcar_paginas true p).procesos]
  exact ((traer_spec hb ho hp).post_of_eq hm).paginas.procesos

theorem crear_paginas (hb : n.Bien π) (hr : n.crear π pid = .ok (p, n')) (pid' : ℤ) :
    (n'.paginasDe pid').length = (n.paginasDe pid').length + if pid' = pid then 1 else 0 := by
  unfold crear at hr
  cases hc : n.proceso pid with
  | none => simp [hc] at hr
  | some c =>
    simp only [hc] at hr
    obtain ⟨⟨k, m⟩, hm, hr⟩ := bind_eq_ok.1 hr
    obtain ⟨-, rfl⟩ : n.proximoPtr = p ∧ m.registrar π pid n.proximoPtr = n' := by
      simpa using hr
    have hpaginas : MismasPaginas (n.nombrar pid (c.paginas.length + 1)) m :=
      ((alojarNueva_spec (nombrar_bien hb) pid n.proximoPtr).post_of_eq hm).paginas
    have hproceso : (m.proceso pid').map Proceso.paginas =
        (n.proceso pid').map Proceso.paginas := proceso_paginas_of_map_eq hpaginas.procesos pid'
    rw [paginasDe, paginasDe, proceso_registrar, ← hproceso]
    by_cases hpid : pid' = pid
    · subst hpid
      rw [hc] at hproceso
      obtain ⟨d, hd, -⟩ := Option.map_eq_some_iff.1 hproceso
      simp [hd, (proceso_some hd).2]
    · cases hd : m.proceso pid' with
      | none => simp [hpid]
      | some d => simp [(proceso_some hd).2, hpid]

theorem crearProceso_paginas (pid pid' : ℤ) :
    (n.crearProceso pid).paginasDe pid' = n.paginasDe pid' := by
  unfold crearProceso
  split
  · rfl
  · next hnuevo =>
    unfold paginasDe proceso
    rw [List.find?_append]
    cases hfind : n.procesos.find? fun c => decide (c.pid = pid') with
    | some c => rfl
    | none =>
      by_cases hpid : pid = pid' <;> simp [hpid]

/-- Each call keeps the history, and evicts by it. -/
theorem Historial.paso {ops : List Operacion} {op : Operacion} {r : Resultado}
    (hlru : π.algoritmoReemplazoMmu = .lru) (h : Historial π ops n) (hop : Admisible op)
    (hr : n.paso π op = .ok (r, n')) :
    Historial π (ops ++ [op]) n' ∧ (∀ q, n.existe q → n'.nombre q = n.nombre q) ∧
      DesalojaLaPrimera π (pidDe op) n n' := by
  have hspec := (paso_spec h.bien h.orden hop).post_of_eq hr
  cases op with
  | createCarpincho pid =>
    obtain ⟨-, rfl⟩ : _ ∧ n.crearProceso pid = n' := by simpa [Nucleo.paso] using hr
    have hmarcos : (n.crearProceso pid).marcos = n.marcos ∧
        (n.crearProceso pid).orden = n.orden ∧ (n.crearProceso pid).nombre = n.nombre := by
      unfold crearProceso
      split <;> exact ⟨rfl, rfl, rfl⟩
    refine ⟨⟨hspec.1, hspec.2, fun pid' => ?_, ?_⟩, fun q _ => congrFun hmarcos.2.2 q,
      .of_marcos_subset fun v hv => ?_⟩
    · rw [crearProceso_paginas, h.creadas pid', List.countP_append]
      rfl
    · rw [hmarcos.2.1, hmarcos.2.2, usos_append]
      simpa [usoDe] using h.recientes
    · rw [mem_residentes, hmarcos.1]
      exact mem_residentes.1 hv
  | createPagina pid =>
    obtain ⟨⟨p, m⟩, hm, hr⟩ := bind_eq_ok.1 hr
    obtain ⟨-, rfl⟩ : _ ∧ m = n' := by simpa using hr
    have husada := crear_lru hlru h.bien h.orden hm
    refine ⟨⟨hspec.1, hspec.2, fun pid' => ?_, husada.recientes ?_ h.recientes⟩, husada.nombre,
      husada.victima⟩
    · rw [crear_paginas h.bien hm, h.creadas pid', List.countP_append]
      rcases eq_or_ne pid' pid with rfl | hpid
      · simp [esCreacionDe]
      · simp [esCreacionDe, hpid, Ne.symm hpid]
    · rw [usoDe, h.creadas pid]
  | leerEnPagina pid pagina tamanio offset =>
    obtain ⟨p, hp, hr⟩ := bind_eq_ok.1 hr
    obtain ⟨⟨contenido, m⟩, hm, hr⟩ := bind_eq_ok.1 hr
    obtain ⟨-, rfl⟩ : _ ∧ m = n' := by simpa using hr
    obtain ⟨hexiste, hnombre⟩ := (buscar_spec pid pagina).post_of_eq hp
    have husada := leer_lru hlru h.bien h.orden hexiste hm
    rw [hnombre] at husada
    refine ⟨⟨hspec.1, hspec.2, fun pid' => ?_, husada.recientes rfl h.recientes⟩, husada.nombre,
      husada.victima⟩
    rw [leer_paginas h.bien h.orden hexiste hm, h.creadas pid', List.countP_append]
    rfl
  | escribirEnPagina pid pagina buffer offset =>
    obtain ⟨p, hp, hr⟩ := bind_eq_ok.1 hr
    obtain ⟨⟨result, m⟩, hm, hr⟩ := bind_eq_ok.1 hr
    obtain ⟨-, rfl⟩ : _ ∧ m = n' := by simpa using hr
    obtain ⟨hexiste, hnombre⟩ := (buscar_spec pid pagina).post_of_eq hp
    have husada := escribir_lru hlru h.bien h.orden hexiste hm
    rw [hnombre] at husada
    refine ⟨⟨hspec.1, hspec.2, fun pid' => ?_, husada.recientes rfl h.recientes⟩, husada.nombre,
      husada.victima⟩
    rw [escribir_paginas h.bien h.orden hexiste hm, h.creadas pid', List.countP_append]
    rfl

theorem inicial_historial : Historial π [] inicial where
  bien := inicial_bien
  orden := inicial_ordenBien
  creadas := fun _ => rfl
  recientes := List.Pairwise.nil

theorem Historial.corrida (hlru : π.algoritmoReemplazoMmu = .lru) {ops : List Operacion}
    (hops : ∀ op ∈ ops, Admisible op) {previas : List Operacion} (h : Historial π previas n)
    {rs : List Resultado} (hr : run (Nucleo.paso π) ops n = .ok (rs, n')) :
    Historial π (previas ++ ops) n' := by
  induction ops generalizing previas n rs with
  | nil =>
    obtain ⟨-, rfl⟩ : [] = rs ∧ n = n' := by simpa [run] using hr
    simpa using h
  | cons op ops ih =>
    obtain ⟨⟨r, m⟩, hm, hr⟩ := bind_eq_ok.1 hr
    obtain ⟨⟨rs', m'⟩, hm', hr⟩ := bind_eq_ok.1 hr
    obtain ⟨-, rfl⟩ : _ ∧ m' = n' := by simpa using hr
    have hpaso := (h.paso hlru (hops op List.mem_cons_self) hm).1
    have hresto := ih (fun op' hop' => hops op' (List.mem_cons_of_mem op hop')) hpaso hm'
    simpa using hresto

end Corrida

end Nucleo

section Exactitud

variable {E : Entorno} {s s' : Estado} {n n' : Nucleo} {ops : List Operacion} {op : Operacion}

def EnMemoria (pagina : ℤ × ℤ) (s : Estado) : Prop :=
  ∃ m ∈ s.marcosList, m.isFree = false ∧ (m.pid, m.pagina) = pagina

/-- A page may be evicted for the carpincho: under FIJA only one of its own. -/
def Elegible (E : Entorno) (pid : ℤ) (pagina : ℤ × ℤ) : Prop :=
  E.config.tipoAsignacion = .fija → pagina.1 = pid

/-- A page that the call `op` takes out of the memory is, among the pages in memory that
it may be chosen from, the one whose last use in the calls `ops` is the earliest. -/
def DesalojoExacto (E : Entorno) (ops : List Operacion) (op : Operacion) (s s' : Estado) : Prop :=
  ∀ v, EnMemoria v s → ¬ EnMemoria v s' →
    Elegible E (pidDe op) v ∧ ∀ q, EnMemoria q s → Elegible E (pidDe op) q → q ≠ v →
      lastUse v (usos ops) < lastUse q (usos ops)

theorem Sim.enMemoria_iff (h : Sim E s n) {pagina : ℤ × ℤ} :
    EnMemoria pagina s ↔ ∃ p ∈ n.residentes E.parametros, n.nombre p = pagina := by
  unfold EnMemoria
  rw [h.marcos]
  constructor
  · rintro ⟨m, hm, hfree, hnombre⟩
    obtain ⟨k, hk, rfl⟩ := mem_tabla.1 hm
    obtain ⟨p, hp⟩ := ocupado_of_isFree hfree
    rw [hp] at hnombre
    exact ⟨p, Nucleo.mem_residentes.2 ⟨k, hk, hp⟩, hnombre⟩
  · rintro ⟨p, hp, rfl⟩
    obtain ⟨k, hk, hkp⟩ := Nucleo.mem_residentes.1 hp
    refine ⟨marcoReal n.nombre k (n.marcos k), mem_tabla.2 ⟨k, hk, rfl⟩, ?_, ?_⟩
    · rw [marcoReal_isFree, hkp]
      rfl
    · rw [hkp]
      rfl

theorem mem_candidatos_iff {pid : ℤ} {p : ℕ} (hp : p ∈ n.residentes E.parametros) :
    p ∈ n.candidatos E.parametros pid ↔ Elegible E pid (n.nombre p) := by
  unfold Nucleo.candidatos Elegible
  rw [show E.parametros.tipoAsignacion = E.config.tipoAsignacion from rfl]
  cases E.config.tipoAsignacion with
  | fija => simp [hp, Nucleo.esDe]
  | dinamica => simp [hp]

/-- What the history of the machine without TLB says about the module. -/
theorem Nucleo.Historial.desalojoExacto (hlru : E.config.algoritmoReemplazoMmu = .lru)
    (h : n.Historial E.parametros ops) (hs : Sim E s n) (hs' : Sim E s' n')
    (hnombre : ∀ p, n.existe p → n'.nombre p = n.nombre p)
    (hprimera : Nucleo.DesalojaLaPrimera E.parametros (pidDe op) n n') :
    DesalojoExacto E ops op s s' := by
  have hexiste : ∀ p ∈ n.residentes E.parametros, n.existe p := by
    intro p hp
    obtain ⟨k, -, hk⟩ := Nucleo.mem_residentes.1 hp
    exact h.bien.marcos.existe k p hk
  intro v hv hno
  obtain ⟨p, hp, rfl⟩ := hs.enMemoria_iff.1 hv
  have hfuera : p ∉ n'.residentes E.parametros := fun hin =>
    hno (hs'.enMemoria_iff.2 ⟨p, hin, hnombre p (hexiste p hp)⟩)
  obtain ⟨resto, hfilter⟩ := hprimera p hp hfuera
  have hcandidato : p ∈ n.candidatos E.parametros (pidDe op) := by
    have hmem : p ∈ n.orden.filter fun p => decide (p ∈ n.candidatos E.parametros (pidDe op)) := by
      rw [hfilter]
      exact List.mem_cons_self
    simpa using (List.mem_filter.1 hmem).2
  refine ⟨(mem_candidatos_iff hp).1 hcandidato, fun q hq helegible hne => ?_⟩
  obtain ⟨r, hr, rfl⟩ := hs.enMemoria_iff.1 hq
  have hmem : r ∈ p :: resto := by
    rw [← hfilter, List.mem_filter, decide_eq_true_eq]
    exact ⟨((h.orden hlru).2 r).2 hr, (mem_candidatos_iff hr).2 helegible⟩
  rcases List.mem_cons.1 hmem with rfl | hresto
  · exact absurd rfl hne
  · have hsorted := h.recientes.filter fun p => decide (p ∈ n.candidatos E.parametros (pidDe op))
    rw [hfilter] at hsorted
    exact List.rel_of_pairwise_cons hsorted hresto

end Exactitud

/-- MMU LRU is exact: after any run, a call that evicts a page evicts, among the pages in
memory that it may be chosen from, the one whose last creation, read or write is the
earliest of the run. -/
theorem lru_exacto {E : Entorno} (hlru : E.config.algoritmoReemplazoMmu = .lru)
    (htlb : 0 < E.config.cantidaEntradasTlb)
    (hswamp : ∀ historia pid pagina, (E.leerSwamp historia pid pagina).isSome)
    (basura : ℕ → Pagina) (ops : List Operacion) (op : Operacion)
    (hops : ∀ op' ∈ ops, Nucleo.Admisible op') (hop : Nucleo.Admisible op) {s s' : Estado}
    {rs : List Resultado} {r : Resultado}
    (hrun : run (paso E) ops (inicializarMemoria E.config basura) = .ok (rs, s))
    (hpaso : paso E op s = .ok (r, s')) : DesalojoExacto E ops op s s' := by
  obtain ⟨⟨rs', n⟩, ⟨-, hrepresenta⟩, hn, -⟩ := ((corrida_sim htlb basura hops).spec
    (Nucleo.corrida_spec hops).self fun e he => no_rechazo hswamp he).post_of_eq hrun
  have hhistorial := Nucleo.inicial_historial.corrida hlru hops hn
  obtain ⟨⟨r', n'⟩, ⟨-, hrepresenta'⟩, hn', -⟩ := ((paso_sim hrepresenta hop).spec
    (Nucleo.paso_spec hrepresenta.bien hrepresenta.orden hop).self
    fun e he => no_rechazo hswamp he).post_of_eq hpaso
  obtain ⟨-, hnombre, hprimera⟩ := hhistorial.paso hlru hop hn'
  exact hhistorial.desalojoExacto hlru hrepresenta.sim hrepresenta'.sim hnombre hprimera

/-- A third page in two frames, with the first one read after the second was created. -/
theorem lru_exacto_tercera_pagina :
    ∃ r r', run (paso (entornoFiel (configChica .lru .fifo)))
        [.createCarpincho 1, .createPagina 1, .createPagina 1, .leerEnPagina 1 1 1 0]
        (inicializarMemoria (configChica .lru .fifo) fun _ => paginaNueva 0 0) = .ok r ∧
      paso (entornoFiel (configChica .lru .fifo)) (.createPagina 1) r.2 = .ok r' ∧
      DesalojoExacto (entornoFiel (configChica .lru .fifo))
        [.createCarpincho 1, .createPagina 1, .createPagina 1, .leerEnPagina 1 1 1 0]
        (.createPagina 1) r.2 r'.2 := by
  have hok : returns (run (paso (entornoFiel (configChica .lru .fifo)))
      [.createCarpincho 1, .createPagina 1, .createPagina 1, .leerEnPagina 1 1 1 0]
      (inicializarMemoria (configChica .lru .fifo) fun _ => paginaNueva 0 0)) (fun r =>
        (paso (entornoFiel (configChica .lru .fifo)) (.createPagina 1) r.2).isOk) = true := by
    decide +kernel
  obtain ⟨r, hr, hpaso⟩ := exists_of_returns hok
  obtain ⟨r', hr'⟩ := exists_of_isOk hpaso
  exact ⟨r, r', hr, hr', lru_exacto rfl (by decide) (fun _ _ _ => rfl) (fun _ => paginaNueva 0 0)
    [.createCarpincho 1, .createPagina 1, .createPagina 1, .leerEnPagina 1 1 1 0]
    (.createPagina 1) (by simp [Nucleo.Admisible]) trivial hr hr'⟩

end Carpinchos.Memoria
