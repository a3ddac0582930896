import Carpinchos.Memoria.Plana
import Carpinchos.Memoria.Recencia
import Carpinchos.Memoria.SimulacionPaso

/-!
# LRU as a stack

Under LRU, with frames for anybody, the pages in memory are the ones that were used last, as many
as there are frames. So a module with more frames has in memory what one with fewer has, and asks
SWAmP for a page only when that one does. The pages that have been created and read are those in
memory and those that have been sent to SWAmP, whichever the assignment.
-/

namespace Carpinchos.Memoria

open Outcome Runs Replacement

section Cuentas

def lecturasDe (mensajes : List Mensaje) : List (ℤ × ℤ) :=
  mensajes.filterMap fun m =>
    match m with
    | .lectura pid pagina => some (pid, pagina)
    | _ => none

def escriturasDe (mensajes : List Mensaje) : List (ℤ × ℤ) :=
  mensajes.filterMap fun m =>
    match m with
    | .escritura pid pagina _ => some (pid, pagina)
    | _ => none

variable (mensajes : List Mensaje) (pid pagina : ℤ) (contenido : List UInt8)

@[simp] theorem lecturasDe_escritura :
    lecturasDe (mensajes ++ [.escritura pid pagina contenido]) = lecturasDe mensajes := by
  simp [lecturasDe]

@[simp] theorem lecturasDe_lectura :
    lecturasDe (mensajes ++ [.lectura pid pagina]) = lecturasDe mensajes ++ [(pid, pagina)] := by
  simp [lecturasDe]

@[simp] theorem escriturasDe_escritura :
    escriturasDe (mensajes ++ [.escritura pid pagina contenido]) =
      escriturasDe mensajes ++ [(pid, pagina)] := by
  simp [escriturasDe]

@[simp] theorem escriturasDe_lectura :
    escriturasDe (mensajes ++ [.lectura pid pagina]) = escriturasDe mensajes := by
  simp [escriturasDe]

def accesoDe : Operacion → Option (ℤ × ℤ)
  | .leerEnPagina pid pagina _ _ => some (pid, pagina)
  | .escribirEnPagina pid pagina _ _ => some (pid, pagina)
  | _ => none

def esCreacion : Operacion → Bool
  | .createPagina _ => true
  | _ => false

/-- The accesses of a run to pages that are not among the last `marcos` ones used. -/
def fallosTras (marcos : ℕ) (previas : List Operacion) : List Operacion → List (ℤ × ℤ)
  | [] => []
  | op :: ops =>
    ((accesoDe op).toList.filter fun u => u ∉ (recency (usos previas)).rtake marcos) ++
      fallosTras marcos (previas ++ [op]) ops

theorem fallosTras_append (marcos : ℕ) (previas ops : List Operacion) (op : Operacion) :
    fallosTras marcos previas (ops ++ [op]) = fallosTras marcos previas ops ++
      (accesoDe op).toList.filter fun u => u ∉ (recency (usos (previas ++ ops))).rtake marcos := by
  induction ops generalizing previas with
  | nil => simp [fallosTras]
  | cons op' ops ih => simp [fallosTras, ih]

/-- More frames, fewer of these accesses. -/
theorem fallosTras_sublist {marcos marcos' : ℕ} (h : marcos ≤ marcos')
    (previas ops : List Operacion) :
    (fallosTras marcos' previas ops).Sublist (fallosTras marcos previas ops) := by
  induction ops generalizing previas with
  | nil => exact List.Sublist.refl _
  | cons op ops ih =>
    refine List.Sublist.append (List.monotone_filter_right _ fun u hu => ?_) (ih _)
    rw [decide_eq_true_iff] at hu ⊢
    exact fun hmem => hu (rtake_subset h _ hmem)

theorem mem_usos_of_lt {pid : ℤ} {i : ℕ} {ops : List Operacion}
    (h : i < ops.countP (esCreacionDe pid)) : (pid, (i : ℤ) + 1) ∈ usos ops := by
  induction ops using List.reverseRecOn with
  | nil => exact absurd h (Nat.not_lt_zero _)
  | append_singleton ops op ih =>
    rw [usos_append, List.mem_append]
    rcases Nat.lt_or_ge i (ops.countP (esCreacionDe pid)) with hviejo | hnuevo
    · exact Or.inl (ih hviejo)
    · rw [List.countP_append, List.countP_singleton] at h
      have hcreacion : esCreacionDe pid op = true := by
        by_contra hno
        rw [if_neg hno] at h
        omega
      rw [if_pos hcreacion] at h
      obtain rfl : i = ops.countP (esCreacionDe pid) := by omega
      cases op with
      | createPagina pid' =>
        obtain rfl : pid' = pid := of_decide_eq_true hcreacion
        exact Or.inr List.mem_cons_self
      | createCarpincho pid' => cases hcreacion
      | leerEnPagina pid' pagina tamanio offset => cases hcreacion
      | escribirEnPagina pid' pagina buffer offset => cases hcreacion

end Cuentas

namespace Nucleo

variable {π : Parametros} {n n' m : Nucleo} {pid : ℤ} {p v k : ℕ} {u : ℤ × ℤ}

section Movimientos

/-- A page `p` with the name `u` becomes the last one used: it was in memory, or it takes a free
frame, or the frame of a page that is sent to SWAmP. A page that is created is not read. -/
inductive Movimiento (π : Parametros) (pid : ℤ) (u : ℤ × ℤ) (creada : Bool) (n n' : Nucleo) : Prop
  | presente (p : ℕ) (hcreada : creada = false) (hp : p ∈ n.orden) (hu : n.nombre p = u)
      (horden : n'.orden = touch p n.orden) (hmensajes : n'.mensajes = n.mensajes)
  | entra (p : ℕ) (hcreada : creada = true) (hnueva : u ∉ n.orden.map n.nombre)
      (hlibre : (n.marcoLibre π).isSome) (hu : n'.nombre p = u) (horden : n'.orden = n.orden ++ [p])
      (hmensajes : n'.mensajes = n.mensajes)
  | reemplaza (p v : ℕ) (resto : List ℕ) (hnueva : u ∉ n.orden.map n.nombre)
      (hlleno : creada = true → n.puedeTomarMarco π pid = false)
      (hprimera : (n.orden.filter fun p => decide (p ∈ n.candidatos π pid)) = v :: resto)
      (hu : n'.nombre p = u) (horden : n'.orden = n.orden.erase v ++ [p])
      (hlecturas : lecturasDe n'.mensajes = lecturasDe n.mensajes ++ if creada then [] else [u])
      (hescrituras : escriturasDe n'.mensajes = escriturasDe n.mensajes ++ [n.nombre v])

theorem desalojarPara_eq (hlru : π.algoritmoReemplazoMmu = .lru)
    (hr : n.desalojarPara π pid p = .ok (k, n')) :
    ∃ v resto contenido,
      (n.orden.filter fun p => decide (p ∈ n.candidatos π pid)) = v :: resto ∧
      n'.orden = n.orden.erase v ∧ n'.nombre = n.nombre ∧
      n'.mensajes = n.mensajes ++ [.escritura (n.nombre v).1 (n.nombre v).2 contenido] := by
  unfold desalojarPara elegir elegirLru at hr
  rw [hlru] at hr
  cases hfilter : n.orden.filter fun p => decide (p ∈ n.candidatos π pid) with
  | nil => simp [hfilter] at hr
  | cons v resto =>
    simp only [hfilter, ok_bind] at hr
    cases hk : n.marcoDe π v with
    | none => simp [hk] at hr
    | some j =>
      simp only [hk, Except.ok.injEq, Prod.mk.injEq] at hr
      obtain ⟨rfl, rfl⟩ := hr
      exact ⟨v, resto, _, rfl, reemplazar_orden v j p, reemplazar_nombre v j p,
        reemplazar_mensajes hlru v j p⟩

theorem existe_de_orden (hlru : π.algoritmoReemplazoMmu = .lru) (hb : n.Bien π)
    (ho : n.OrdenBien π) {q : ℕ} (hq : q ∈ n.orden) : n.existe q := by
  obtain ⟨k, -, hk⟩ := mem_residentes.1 (((ho hlru).2 q).1 hq)
  exact hb.marcos.existe k q hk

theorem acceso_movimiento (hlru : π.algoritmoReemplazoMmu = .lru) (hb : n.Bien π)
    (ho : n.OrdenBien π) (hp : n.existe p) (hr : n.traer π p = .ok (k, m))
    (horden : n'.orden = touch p m.orden) (hnombre : n'.nombre = m.nombre)
    (hmensajes : n'.mensajes = m.mensajes) :
    Movimiento π (n.nombre p).1 (n.nombre p) false n n' := by
  unfold traer at hr
  cases hk : n.marcoDe π p with
  | some j =>
    rw [hk] at hr
    cases hr
    obtain ⟨hlt, hj⟩ := marcoDe_some hk
    exact .presente p rfl (((ho hlru).2 p).2 (mem_residentes.2 ⟨k, hlt, hj⟩)) rfl horden hmensajes
  | none =>
    have hfuera : p ∉ n.orden := fun hp => by
      obtain ⟨j, hlt, hj⟩ := mem_residentes.1 (((ho hlru).2 p).1 hp)
      exact marcoDe_eq_none.1 hk j hlt hj
    rw [hk] at hr
    obtain ⟨⟨j, m₁⟩, hdesalojar, hr⟩ := bind_eq_ok.1 hr
    obtain ⟨v, resto, contenido, hprimera, horden₁, hnombre₁, hmensajes₁⟩ :=
      desalojarPara_eq hlru hdesalojar
    dsimp only at hr
    split at hr
    · cases hr
    · cases hr
      refine .reemplaza p v resto (fun hmem => ?_) (fun hno => nomatch hno) hprimera ?_ ?_ ?_ ?_
      · obtain ⟨q, hq, heq⟩ := List.mem_map.1 hmem
        obtain rfl := hb.tablas.nombre_inj (existe_de_orden hlru hb ho hq) hp heq
        exact hfuera hq
      · rw [hnombre, hnombre₁]
      · rw [horden, horden₁, touch_of_not_mem fun hp => hfuera (List.mem_of_mem_erase hp)]
      · rw [hmensajes, hmensajes₁, lecturasDe_lectura, lecturasDe_escritura, hnombre₁]
        rfl
      · rw [hmensajes, hmensajes₁, escriturasDe_lectura, escriturasDe_escritura]

theorem crear_movimiento (hlru : π.algoritmoReemplazoMmu = .lru) (hb : n.Bien π)
    (ho : n.OrdenBien π) (hr : n.crear π pid = .ok (p, n')) :
    Movimiento π pid (pid, ((n.paginasDe pid).length : ℤ) + 1) true n n' := by
  unfold crear at hr
  cases hc : n.proceso pid with
  | none =>
    rw [hc] at hr
    cases hr
  | some c =>
    rw [hc] at hr
    obtain ⟨⟨k, m⟩, hm, hr⟩ := bind_eq_ok.1 hr
    cases hr
    have hpaginas : n.paginasDe pid = c.paginas := by rw [paginasDe, hc]; rfl
    have hnueva : (pid, ((n.paginasDe pid).length : ℤ) + 1) ∉ n.orden.map n.nombre := fun hmem => by
      obtain ⟨q, hq, heq⟩ := List.mem_map.1 hmem
      exact hb.tablas.nombre_siguiente (existe_de_orden hlru hb ho hq) heq
    have hu : m.nombre = (n.nombrar pid (c.paginas.length + 1)).nombre →
        (m.registrar π pid n.proximoPtr).nombre n.proximoPtr =
          (pid, ((n.paginasDe pid).length : ℤ) + 1) := by
      intro hnombre
      rw [registrar_nombre, hnombre, hpaginas]
      exact Function.update_self _ _ _
    unfold alojarNueva at hm
    split at hm
    · cases hk : (n.nombrar pid (c.paginas.length + 1)).marcoLibre π with
      | none =>
        rw [hk] at hm
        cases hm
      | some j =>
        rw [hk] at hm
        cases hm
        refine .entra n.proximoPtr rfl hnueva (Option.isSome_iff_exists.2 ⟨k, hk⟩) (hu rfl) ?_ ?_
        · rw [registrar_orden hlru]
          rfl
        · rw [registrar_mensajes]
          rfl
    · next hpuede =>
      obtain ⟨v, resto, contenido, hprimera, horden, hnombre, hmensajes⟩ := desalojarPara_eq hlru hm
      rw [candidatos_nombrar hb] at hprimera
      have hv : v ∈ n.orden := (List.mem_filter.1 (hprimera ▸ List.mem_cons_self)).1
      have hvnombre : (n.nombrar pid (c.paginas.length + 1)).nombre v = n.nombre v :=
        nombrar_nombre_of_existe hb (existe_de_orden hlru hb ho hv)
      refine .reemplaza n.proximoPtr v resto hnueva (fun _ => ?_) hprimera (hu hnombre) ?_ ?_ ?_
      · rw [← puedeTomarMarco_nombrar hb pid (c.paginas.length + 1)]
        exact Bool.eq_false_iff.2 hpuede
      · rw [registrar_orden hlru, horden]
        rfl
      · rw [registrar_mensajes, hmensajes, lecturasDe_escritura]
        exact (List.append_nil _).symm
      · rw [registrar_mensajes, hmensajes, escriturasDe_escritura, hvnombre]
        rfl

/-- What one call does to the pages in memory. -/
theorem Historial.movimiento {ops : List Operacion} {op : Operacion} {r : Resultado}
    (hlru : π.algoritmoReemplazoMmu = .lru) (h : Historial π ops n)
    (hr : n.paso π op = .ok (r, n')) :
    (usoDe ops op = none ∧ n'.orden = n.orden ∧ n'.mensajes = n.mensajes) ∨
      ∃ u, usoDe ops op = some u ∧ accesoDe op = (if esCreacion op then none else some u) ∧
        (esCreacion op = false → ∃ q, n.existe q ∧ n.nombre q = u) ∧
        Movimiento π (pidDe op) u (esCreacion op) n n' := by
  cases op with
  | createCarpincho pid =>
    cases hr
    refine Or.inl ⟨rfl, ?_⟩
    unfold crearProceso
    split <;> exact ⟨rfl, rfl⟩
  | createPagina pid =>
    obtain ⟨⟨p, m⟩, hm, hr⟩ := bind_eq_ok.1 hr
    cases hr
    refine Or.inr ⟨_, rfl, rfl, fun hno => (by cases hno), ?_⟩
    rw [← h.creadas pid]
    exact crear_movimiento hlru h.bien h.orden hm
  | leerEnPagina pid pagina tamanio offset =>
    obtain ⟨p, hp, hr⟩ := bind_eq_ok.1 hr
    obtain ⟨⟨contenido, m'⟩, hleer, hr⟩ := bind_eq_ok.1 hr
    cases hr
    obtain ⟨hexiste, hnombre⟩ := (buscar_spec pid pagina).post_of_eq hp
    obtain ⟨k, m, hm, rfl⟩ := leer_eq hleer
    have hmov : Movimiento π (n.nombre p).1 (n.nombre p) false n (m.marcar π false p) :=
      acceso_movimiento hlru h.bien h.orden hexiste hm (by rw [marcar, hlru])
        (by rw [marcar, hlru]) (by rw [marcar, hlru])
    rw [hnombre] at hmov
    exact Or.inr ⟨_, rfl, rfl, fun _ => ⟨p, hexiste, hnombre⟩, hmov⟩
  | escribirEnPagina pid pagina buffer offset =>
    obtain ⟨p, hp, hr⟩ := bind_eq_ok.1 hr
    obtain ⟨⟨result, m'⟩, hescribir, hr⟩ := bind_eq_ok.1 hr
    cases hr
    obtain ⟨hexiste, hnombre⟩ := (buscar_spec pid pagina).post_of_eq hp
    obtain ⟨k, m, cache, hm, rfl⟩ := escribir_eq hescribir
    have hmov : Movimiento π (n.nombre p).1 (n.nombre p) false n
        ({ m with cache := cache }.marcar π true p) :=
      acceso_movimiento hlru h.bien h.orden hexiste hm (by rw [marcar, hlru])
        (by rw [marcar, hlru]) (by rw [marcar, hlru])
    rw [hnombre] at hmov
    exact Or.inr ⟨_, rfl, rfl, fun _ => ⟨p, hexiste, hnombre⟩, hmov⟩

end Movimientos

section Cuenta

theorem length_orden (hlru : π.algoritmoReemplazoMmu = .lru) (hb : n.Bien π)
    (ho : n.OrdenBien π) : n.orden.length = (n.residentes π).length := by
  have hnodup : (n.residentes π).Nodup := by
    refine List.Nodup.filterMap (fun k k' p hk hk' => ?_) List.nodup_range
    exact hb.marcos.inj k k' p hk hk'
  exact ((List.perm_ext_iff_of_nodup (ho hlru).1 hnodup).2 (ho hlru).2).length_eq

theorem marcoLibre_isSome_iff :
    (n.marcoLibre π).isSome ↔ (n.residentes π).length < π.cantidadMarcos := by
  have hcuenta : (n.residentes π).length < π.cantidadMarcos ↔
      (n.residentes π).length < (List.range π.cantidadMarcos).length := by rw [List.length_range]
  rw [hcuenta, length_residentes, ocupados, List.countP_lt_length_iff, marcoLibre,
    List.find?_isSome]
  refine exists_congr fun k => and_congr_right fun _ => ?_
  cases n.marcos k <;> simp

/-- What is in memory and what has been sent is what has been created and read. -/
structure Balance (π : Parametros) (ops : List Operacion) (n : Nucleo) : Prop where
  historial : Historial π ops n
  cuenta : (n.residentes π).length + (escriturasDe n.mensajes).length =
    ops.countP esCreacion + (lecturasDe n.mensajes).length

theorem Balance.paso {ops : List Operacion} {op : Operacion} {r : Resultado}
    (hlru : π.algoritmoReemplazoMmu = .lru) (h : Balance π ops n) (hop : Admisible op)
    (hr : n.paso π op = .ok (r, n')) : Balance π (ops ++ [op]) n' := by
  have hhistorial := (h.historial.paso hlru hop hr).1
  have hcuenta := h.cuenta
  refine ⟨hhistorial, ?_⟩
  rw [← length_orden hlru h.historial.bien h.historial.orden] at hcuenta
  rw [← length_orden hlru hhistorial.bien hhistorial.orden, List.countP_append,
    List.countP_singleton]
  rcases h.historial.movimiento hlru hr with ⟨huso, horden, hmensajes⟩ | ⟨u, -, -, -, hmov⟩
  · have hcreada : esCreacion op = false := by
      cases op with
      | createPagina pid => cases huso
      | createCarpincho pid => rfl
      | leerEnPagina pid pagina tamanio offset => rfl
      | escribirEnPagina pid pagina buffer offset => rfl
    rw [horden, hmensajes, hcreada]
    exact hcuenta
  · cases hmov with
    | presente p hcreada hp hu horden hmensajes =>
      rw [horden, hmensajes, hcreada, length_touch_of_mem hp]
      exact hcuenta
    | entra p hcreada hnueva hlibre hu horden hmensajes =>
      rw [horden, hmensajes, hcreada, List.length_append, List.length_singleton]
      simp only [if_true]
      omega
    | reemplaza p v resto hnueva hlleno hprimera hu horden hlecturas hescrituras =>
      have hv : v ∈ n.orden := (List.mem_filter.1 (hprimera ▸ List.mem_cons_self)).1
      have hpos := List.length_pos_of_mem hv
      rw [horden, hlecturas, hescrituras, List.length_append, List.length_append,
        List.length_append, List.length_erase_of_mem hv]
      cases esCreacion op <;> simp <;> omega

end Cuenta

section Apilada

variable {creada : Bool}

theorem Historial.usada {ops : List Operacion} (h : Historial π ops n) (hp : n.existe p) :
    n.nombre p ∈ usos ops := by
  obtain ⟨c, hc, hcmem, hpc⟩ := h.bien.tablas.existe_proceso hp
  obtain ⟨i, hi, rfl⟩ := List.getElem_of_mem hpc
  rw [h.bien.tablas.nombre c hcmem i hi] at hc ⊢
  have hpaginas : n.paginasDe c.pid = c.paginas := by rw [paginasDe, hc]; rfl
  apply mem_usos_of_lt
  rw [← h.creadas c.pid, hpaginas]
  exact hi

theorem Movimiento.ultimas (hmov : Movimiento π pid u creada n n')
    (hlru : π.algoritmoReemplazoMmu = .lru) (hdin : π.tipoAsignacion = .dinamica) (hb : n.Bien π)
    (ho : n.OrdenBien π) (hnombre : ∀ q ∈ n.orden, n'.nombre q = n.nombre q)
    (hlleno : creada = false → u ∉ n.orden.map n.nombre →
      n.orden.length = π.cantidadMarcos) :
    n'.orden.map n'.nombre = (touch u (n.orden.map n.nombre)).rtake π.cantidadMarcos := by
  have hcabe : n.orden.length ≤ π.cantidadMarcos := by
    rw [length_orden hlru hb ho]
    exact (List.length_filterMap_le _ _).trans (List.length_range).le
  have hmap : ∀ l : List ℕ, l ⊆ n.orden → l.map n'.nombre = l.map n.nombre := fun l hl =>
    List.map_congr_left fun q hq => hnombre q (hl hq)
  cases hmov with
  | presente p hcreada hp hu horden hmensajes =>
    have hinj : ∀ q ∈ n.orden, n.nombre q = n.nombre p → q = p := fun q hq heq =>
      hb.tablas.nombre_inj (existe_de_orden hlru hb ho hq) (existe_de_orden hlru hb ho hp) heq
    have hsub : touch p n.orden ⊆ n.orden := fun q hq => by
      rcases (mem_touch (ho hlru).1).1 hq with rfl | hq
      · exact hp
      · exact hq
    rw [horden, hmap _ hsub, map_touch hinj, hu, rtake_of_length_le]
    rw [← hu, length_touch_of_mem (List.mem_map_of_mem hp), List.length_map]
    exact hcabe
  | entra p hcreada hnueva hlibre hu horden hmensajes =>
    rw [marcoLibre_isSome_iff, ← length_orden hlru hb ho] at hlibre
    rw [horden, List.map_append, hmap _ fun _ hq => hq, List.map_singleton, hu,
      touch_of_not_mem hnueva, rtake_of_length_le]
    rw [List.length_append, List.length_map, List.length_singleton]
    exact hlibre
  | reemplaza p v resto hnueva hlleno' hprimera hu horden hlecturas hescrituras =>
    have hlargo : n.orden.length = π.cantidadMarcos := by
      cases creada with
      | false => exact hlleno rfl hnueva
      | true =>
        have hpuede := hlleno' rfl
        rw [puedeTomarMarco, hdin, Bool.and_true] at hpuede
        have hlibre := mt marcoLibre_isSome_iff.2 (Bool.eq_false_iff.1 hpuede)
        rw [← length_orden hlru hb ho] at hlibre
        omega
    have hfilter : (n.orden.filter fun p => decide (p ∈ n.candidatos π pid)) = n.orden := by
      rw [List.filter_eq_self]
      intro q hq
      rw [decide_eq_true_eq, candidatos, hdin]
      exact ((ho hlru).2 q).1 hq
    rw [hfilter] at hprimera
    have hresto : resto ⊆ n.orden := fun q hq => hprimera ▸ List.mem_cons_of_mem v hq
    rw [touch_of_not_mem hnueva, horden, List.map_append, List.map_singleton, hu]
    rw [hprimera, List.length_cons] at hlargo
    have hlongitud : (resto.map n.nombre ++ [u]).length = π.cantidadMarcos := by
      rw [List.length_append, List.length_map, List.length_singleton, hlargo]
    rw [hprimera, List.erase_cons_head, hmap _ hresto]
    calc resto.map n.nombre ++ [u]
        = (resto.map n.nombre ++ [u]).rtake π.cantidadMarcos :=
          (rtake_of_length_le hlongitud.le).symm
      _ = ([n.nombre v] ++ (resto.map n.nombre ++ [u])).rtake π.cantidadMarcos :=
          (rtake_append_of_le hlongitud.ge).symm

theorem Movimiento.lecturas (hmov : Movimiento π pid u creada n n') :
    lecturasDe n'.mensajes = lecturasDe n.mensajes ++
      (if creada then none else some u).toList.filter fun u => u ∉ n.orden.map n.nombre := by
  cases hmov with
  | presente p hcreada hp hu horden hmensajes =>
    have hmem : u ∈ n.orden.map n.nombre := hu ▸ List.mem_map_of_mem hp
    have hfilter : ([u].filter fun u => u ∉ n.orden.map n.nombre) = [] :=
      List.filter_cons_of_neg fun hno => of_decide_eq_true hno hmem
    rw [hmensajes, hcreada]
    exact ((congrArg _ hfilter).trans (List.append_nil _)).symm
  | entra p hcreada hnueva hlibre hu horden hmensajes =>
    rw [hmensajes, hcreada]
    exact (List.append_nil _).symm
  | reemplaza p v resto hnueva hlleno' hprimera hu horden hlecturas hescrituras =>
    have hfilter : ([u].filter fun u => u ∉ n.orden.map n.nombre) = [u] :=
      List.filter_cons_of_pos (decide_eq_true hnueva)
    rw [hlecturas]
    cases creada with
    | true => rfl
    | false => exact (congrArg _ hfilter).symm

/-- The pages in memory are the ones that were used last, and the others were read when they
were accessed. -/
structure Apilada (π : Parametros) (ops : List Operacion) (n : Nucleo) : Prop where
  historial : Historial π ops n
  ultimas : n.orden.map n.nombre = (recency (usos ops)).rtake π.cantidadMarcos
  lecturas : lecturasDe n.mensajes = fallosTras π.cantidadMarcos [] ops

theorem Apilada.paso {ops : List Operacion} {op : Operacion} {r : Resultado}
    (hlru : π.algoritmoReemplazoMmu = .lru) (hdin : π.tipoAsignacion = .dinamica)
    (h : Apilada π ops n) (hop : Admisible op) (hr : n.paso π op = .ok (r, n')) :
    Apilada π (ops ++ [op]) n' := by
  obtain ⟨hhistorial, hnombre, -⟩ := h.historial.paso hlru hop hr
  have hb := h.historial.bien
  have ho := h.historial.orden
  have hviejos : ∀ q ∈ n.orden, n'.nombre q = n.nombre q := fun q hq =>
    hnombre q (existe_de_orden hlru hb ho hq)
  rcases h.historial.movimiento hlru hr with
    ⟨huso, horden, hmensajes⟩ | ⟨u, huso, hacceso, hpagina, hmov⟩
  · have hacceso : accesoDe op = none := by
      cases op with
      | createCarpincho pid => rfl
      | createPagina pid => rfl
      | leerEnPagina pid pagina tamanio offset => cases huso
      | escribirEnPagina pid pagina buffer offset => cases huso
    refine ⟨hhistorial, ?_, ?_⟩
    · rw [horden, List.map_congr_left hviejos, h.ultimas, usos_append, huso]
      exact congrArg (fun l => (recency l).rtake _) (List.append_nil _).symm
    · rw [hmensajes, h.lecturas, fallosTras_append, hacceso]
      exact (List.append_nil _).symm
  · have hlleno : esCreacion op = false → u ∉ n.orden.map n.nombre →
        n.orden.length = π.cantidadMarcos := by
      intro hcreada hfuera
      obtain ⟨q, hq, rfl⟩ := hpagina hcreada
      have hlargo := congrArg List.length h.ultimas
      rw [List.length_map, length_rtake] at hlargo
      rcases Nat.le_total π.cantidadMarcos (recency (usos ops)).length with hle | hle
      · rw [hlargo, Nat.min_eq_left hle]
      · rw [h.ultimas, rtake_of_length_le hle, mem_recency] at hfuera
        exact absurd (h.historial.usada hq) hfuera
    refine ⟨hhistorial, ?_, ?_⟩
    · rw [hmov.ultimas hlru hdin hb ho hviejos hlleno, h.ultimas, rtake_touch (nodup_recency _),
        usos_append, huso]
      exact congrArg (List.rtake · _) (recency_append _ _).symm
    · rw [hmov.lecturas, h.lecturas, h.ultimas, fallosTras_append, hacceso]
      rfl

end Apilada

section Corrida

theorem corrida_de_paso {I : List Operacion → Nucleo → Prop}
    (hpaso : ∀ {ops op n n' r}, I ops n → Admisible op → n.paso π op = .ok (r, n') →
      I (ops ++ [op]) n') {ops : List Operacion} (hops : ∀ op ∈ ops, Admisible op)
    {previas : List Operacion} (h : I previas n) {rs : List Resultado}
    (hr : run (Nucleo.paso π) ops n = .ok (rs, n')) : I (previas ++ ops) n' := by
  induction ops generalizing previas n rs with
  | nil =>
    cases hr
    rw [List.append_nil]
    exact h
  | cons op ops ih =>
    obtain ⟨⟨r, m⟩, hm, hr⟩ := bind_eq_ok.1 hr
    obtain ⟨⟨rs', m'⟩, hm', hr⟩ := bind_eq_ok.1 hr
    cases hr
    have hresto := ih (fun op' hop' => hops op' (List.mem_cons_of_mem op hop'))
      (hpaso h (hops op List.mem_cons_self) hm) hm'
    rw [List.append_cons]
    exact hresto

theorem inicial_balance : Balance π [] inicial where
  historial := inicial_historial
  cuenta := by
    rw [length_residentes]
    exact List.countP_eq_zero.2 fun _ _ => Bool.false_ne_true

theorem inicial_apilada : Apilada π [] inicial where
  historial := inicial_historial
  ultimas := (List.drop_nil).symm
  lecturas := rfl

end Corrida

end Nucleo

section Modulo

variable {E E' : Entorno} {s s' : Estado} {ops : List Operacion} {rs rs' : List Resultado}

/-- A run of the module when SWAmP answers, and the run of the machine that it follows. -/
theorem exists_corrida (htlb : 0 < E.config.cantidaEntradasTlb)
    (hswamp : ∀ historia pid pagina, (E.leerSwamp historia pid pagina).isSome)
    (basura : ℕ → Pagina) (hops : ∀ op ∈ ops, Nucleo.Admisible op)
    (hrun : run (paso E) ops (inicializarMemoria E.config basura) = .ok (rs, s)) :
    ∃ n, Sim E s n ∧ run (Nucleo.paso E.parametros) ops Nucleo.inicial = .ok (rs, n) := by
  obtain ⟨⟨rs', n⟩, ⟨heq, hrepresenta⟩, hn, -⟩ := ((corrida_sim htlb basura hops).spec
    (Nucleo.corrida_spec hops).self fun e he => no_rechazo hswamp he).post_of_eq hrun
  obtain rfl : rs = rs' := heq
  exact ⟨n, hrepresenta.sim, hn⟩

theorem exists_apilada (hlru : E.config.algoritmoReemplazoMmu = .lru)
    (hdin : E.config.tipoAsignacion = .dinamica) (htlb : 0 < E.config.cantidaEntradasTlb)
    (hswamp : ∀ historia pid pagina, (E.leerSwamp historia pid pagina).isSome)
    (basura : ℕ → Pagina) (hops : ∀ op ∈ ops, Nucleo.Admisible op)
    (hrun : run (paso E) ops (inicializarMemoria E.config basura) = .ok (rs, s)) :
    ∃ n, Sim E s n ∧ Nucleo.Apilada E.parametros ops n := by
  obtain ⟨n, hsim, hn⟩ := exists_corrida htlb hswamp basura hops hrun
  exact ⟨n, hsim, Nucleo.corrida_de_paso (fun h hop hr => h.paso hlru hdin hop hr) hops
    Nucleo.inicial_apilada hn⟩

/-- Under LRU with DINAMICA the pages in memory are, after every run, the ones that were created,
read or written last, as many as there are frames. -/
theorem en_memoria_las_ultimas (hlru : E.config.algoritmoReemplazoMmu = .lru)
    (hdin : E.config.tipoAsignacion = .dinamica) (htlb : 0 < E.config.cantidaEntradasTlb)
    (hswamp : ∀ historia pid pagina, (E.leerSwamp historia pid pagina).isSome)
    (basura : ℕ → Pagina) (ops : List Operacion) (hops : ∀ op ∈ ops, Nucleo.Admisible op)
    (hrun : run (paso E) ops (inicializarMemoria E.config basura) = .ok (rs, s))
    (pagina : ℤ × ℤ) :
    EnMemoria pagina s ↔ pagina ∈ (recency (usos ops)).rtake E.config.cantidadMarcos := by
  obtain ⟨n, hsim, hpila⟩ := exists_apilada hlru hdin htlb hswamp basura hops hrun
  have hmem : pagina ∈ (recency (usos ops)).rtake E.config.cantidadMarcos ↔
      pagina ∈ n.orden.map n.nombre := by rw [hpila.ultimas]; rfl
  rw [hsim.enMemoria_iff, hmem, List.mem_map]
  exact exists_congr fun p => and_congr_left fun _ => ((hpila.historial.orden hlru).2 p).symm

/-- Four pages, of which the first two are read again. -/
def cuatroPaginas : List Operacion :=
  [.createCarpincho 1, .createPagina 1, .createPagina 1, .createPagina 1, .createPagina 1,
    .leerEnPagina 1 1 1 0, .leerEnPagina 1 2 1 0, .escribirEnPagina 1 4 [7] 0]

theorem cuatroPaginas_admisible : ∀ op ∈ cuatroPaginas, Nucleo.Admisible op := by
  simp [cuatroPaginas, Nucleo.Admisible]

theorem exists_cuatroPaginas :
    ∃ r, run (paso (entornoFiel (configChica .lru .fifo))) cuatroPaginas
      (inicializarMemoria (configChica .lru .fifo) fun _ => paginaNueva 0 0) = .ok r :=
  exists_of_isOk (by decide +kernel)

theorem en_memoria_las_ultimas_cuatro :
    ∃ r, run (paso (entornoFiel (configChica .lru .fifo))) cuatroPaginas
        (inicializarMemoria (configChica .lru .fifo) fun _ => paginaNueva 0 0) = .ok r ∧
      ∀ pagina, EnMemoria pagina r.2 ↔ pagina ∈ (recency (usos cuatroPaginas)).rtake
        (configChica .lru .fifo).cantidadMarcos := by
  obtain ⟨r, hr⟩ := exists_cuatroPaginas
  exact ⟨r, hr, en_memoria_las_ultimas rfl rfl (by decide) (fun _ _ _ => rfl) _ _
    cuatroPaginas_admisible hr⟩

/-- With more frames the module asks SWAmP for no more pages: what it reads is a part of what it
reads with fewer, in the same order. -/
theorem mas_marcos_menos_lecturas (hlru : E.config.algoritmoReemplazoMmu = .lru)
    (hlru' : E'.config.algoritmoReemplazoMmu = .lru)
    (hdin : E.config.tipoAsignacion = .dinamica) (hdin' : E'.config.tipoAsignacion = .dinamica)
    (htlb : 0 < E.config.cantidaEntradasTlb) (htlb' : 0 < E'.config.cantidaEntradasTlb)
    (hswamp : ∀ historia pid pagina, (E.leerSwamp historia pid pagina).isSome)
    (hswamp' : ∀ historia pid pagina, (E'.leerSwamp historia pid pagina).isSome)
    (hmarcos : E.config.cantidadMarcos ≤ E'.config.cantidadMarcos) (basura basura' : ℕ → Pagina)
    (ops : List Operacion) (hops : ∀ op ∈ ops, Nucleo.Admisible op)
    (hrun : run (paso E) ops (inicializarMemoria E.config basura) = .ok (rs, s))
    (hrun' : run (paso E') ops (inicializarMemoria E'.config basura') = .ok (rs', s')) :
    (lecturasDe s'.mensajes).Sublist (lecturasDe s.mensajes) := by
  obtain ⟨n, hsim, hpila⟩ := exists_apilada hlru hdin htlb hswamp basura hops hrun
  obtain ⟨n', hsim', hpila'⟩ := exists_apilada hlru' hdin' htlb' hswamp' basura' hops hrun'
  rw [hsim.mensajes, hpila.lecturas, hsim'.mensajes, hpila'.lecturas]
  exact fallosTras_sublist hmarcos [] ops

def configTresMarcos : Config :=
  { configChica .lru .fifo with
    tamanio := 6
    tamanio_lt := by decide }

theorem mas_marcos_menos_lecturas_tres :
    ∃ r r', run (paso (entornoFiel (configChica .lru .fifo))) cuatroPaginas
        (inicializarMemoria (configChica .lru .fifo) fun _ => paginaNueva 0 0) = .ok r ∧
      run (paso (entornoFiel configTresMarcos)) cuatroPaginas
        (inicializarMemoria configTresMarcos fun _ => paginaNueva 0 0) = .ok r' ∧
      (lecturasDe r'.2.mensajes).Sublist (lecturasDe r.2.mensajes) := by
  obtain ⟨r, hr⟩ := exists_cuatroPaginas
  obtain ⟨r', hr'⟩ := exists_of_isOk (x := run (paso (entornoFiel configTresMarcos))
    cuatroPaginas (inicializarMemoria configTresMarcos fun _ => paginaNueva 0 0))
    (by decide +kernel)
  exact ⟨r, r', hr, hr', mas_marcos_menos_lecturas rfl rfl rfl rfl (by decide) (by decide)
    (fun _ _ _ => rfl) (fun _ _ _ => rfl) (by decide) _ _ _ cuatroPaginas_admisible hr hr'⟩

theorem Sim.ocupados {n : Nucleo} (h : Sim E s n) :
    s.marcosList.countP (fun m => !m.isFree) = (n.residentes E.parametros).length := by
  rw [h.marcos, tablaDeMarcos, List.countP_map, Nucleo.length_residentes]
  refine List.countP_congr fun k _ => ?_
  cases hk : n.marcos k <;> simp [marcoReal_isFree, hk]

/-- The frames in use and the pages sent to SWAmP are, after every run under LRU, as many as the
pages created and the pages read back. -/
theorem paginas_balance (hlru : E.config.algoritmoReemplazoMmu = .lru)
    (htlb : 0 < E.config.cantidaEntradasTlb)
    (hswamp : ∀ historia pid pagina, (E.leerSwamp historia pid pagina).isSome)
    (basura : ℕ → Pagina) (ops : List Operacion) (hops : ∀ op ∈ ops, Nucleo.Admisible op)
    (hrun : run (paso E) ops (inicializarMemoria E.config basura) = .ok (rs, s)) :
    s.marcosList.countP (fun m => !m.isFree) + (escriturasDe s.mensajes).length =
      ops.countP esCreacion + (lecturasDe s.mensajes).length := by
  obtain ⟨n, hsim, hn⟩ := exists_corrida htlb hswamp basura hops hrun
  have hbalance : Nucleo.Balance E.parametros ops n :=
    Nucleo.corrida_de_paso (fun h hop hr => h.paso hlru hop hr) hops Nucleo.inicial_balance hn
  rw [hsim.ocupados, hsim.mensajes]
  exact hbalance.cuenta

theorem paginas_balance_cuatro :
    ∃ r, run (paso (entornoFiel (configChica .lru .fifo))) cuatroPaginas
        (inicializarMemoria (configChica .lru .fifo) fun _ => paginaNueva 0 0) = .ok r ∧
      r.2.marcosList.countP (fun m => !m.isFree) + (escriturasDe r.2.mensajes).length =
        cuatroPaginas.countP esCreacion + (lecturasDe r.2.mensajes).length := by
  obtain ⟨r, hr⟩ := exists_cuatroPaginas
  exact ⟨r, hr, paginas_balance rfl (by decide) (fun _ _ _ => rfl) _ _ cuatroPaginas_admisible hr⟩

end Modulo

end Carpinchos.Memoria
