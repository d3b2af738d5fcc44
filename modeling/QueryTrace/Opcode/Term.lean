/-!
# Terms of the query language

Every operator of the query language has a number on the wire and a name.
-/

namespace QueryTrace.Term

/-- The known terms, in the order of their numbers. -/
def table : List (Nat × String) :=
  [(1, "datum"), (2, "make_array"), (3, "make_obj"), (10, "var"), (11, "javascript"),
   (12, "error"), (13, "implicit_var"), (14, "db"), (15, "table"), (16, "get"), (17, "eq"),
   (18, "ne"), (19, "lt"), (20, "le"), (21, "gt"), (22, "ge"), (23, "not"), (24, "add"),
   (25, "sub"), (26, "mul"), (27, "div"), (28, "mod"), (29, "append"), (30, "slice"),
   (31, "get_field"), (32, "has_fields"), (33, "pluck"), (34, "without"), (35, "merge"),
   (36, "between_deprecated"), (37, "reduce"), (38, "map"), (39, "filter"), (40, "concat_map"),
   (41, "order_by"), (42, "distinct"), (43, "count"), (44, "union"), (45, "nth"),
   (48, "inner_join"), (49, "outer_join"), (50, "eq_join"), (51, "coerce_to"), (52, "type_of"),
   (53, "update"), (54, "delete"), (55, "replace"), (56, "insert"), (57, "db_create"),
   (58, "db_drop"), (59, "db_list"), (60, "table_create"), (61, "table_drop"),
   (62, "table_list"), (64, "funcall"), (65, "branch"), (66, "or"), (67, "and"),
   (68, "for_each"), (69, "func"), (70, "skip"), (71, "limit"), (72, "zip"), (73, "asc"),
   (74, "desc"), (75, "index_create"), (76, "index_drop"), (77, "index_list"), (78, "get_all"),
   (79, "info"), (80, "prepend"), (81, "sample"), (82, "insert_at"), (83, "delete_at"),
   (84, "change_at"), (85, "splice_at"), (86, "is_empty"), (87, "offsets_of"),
   (88, "set_insert"), (89, "set_intersection"), (90, "set_union"), (91, "set_difference"),
   (92, "default"), (93, "contains"), (94, "keys"), (95, "difference"), (96, "with_fields"),
   (97, "match"), (98, "json"), (99, "iso8601"), (100, "to_iso8601"), (101, "epoch_time"),
   (102, "to_epoch_time"), (103, "now"), (104, "in_timezone"), (105, "during"), (106, "date"),
   (107, "monday"), (108, "tuesday"), (109, "wednesday"), (110, "thursday"), (111, "friday"),
   (112, "saturday"), (113, "sunday"), (114, "january"), (115, "february"), (116, "march"),
   (117, "april"), (118, "may"), (119, "june"), (120, "july"), (121, "august"),
   (122, "september"), (123, "october"), (124, "november"), (125, "december"),
   (126, "time_of_day"), (127, "timezone"), (128, "year"), (129, "month"), (130, "day"),
   (131, "day_of_week"), (132, "day_of_year"), (133, "hours"), (134, "minutes"),
   (135, "seconds"), (136, "time"), (137, "literal"), (138, "sync"), (139, "index_status"),
   (140, "index_wait"), (141, "upcase"), (142, "downcase"), (143, "object"), (144, "group"),
   (145, "sum"), (146, "avg"), (147, "min"), (148, "max"), (149, "split"), (150, "ungroup"),
   (151, "random"), (152, "changes"), (153, "http"), (154, "args"), (155, "binary"),
   (156, "index_rename"), (157, "geojson"), (158, "to_geojson"), (159, "point"), (160, "line"),
   (161, "polygon"), (162, "distance"), (163, "intersects"), (164, "includes"), (165, "circle"),
   (166, "get_intersecting"), (167, "fill"), (168, "get_nearest"), (169, "uuid"),
   (170, "bracket"), (171, "polygon_sub"), (172, "to_json_string"), (173, "range"),
   (174, "config"), (175, "status"), (176, "reconfigure"), (177, "wait"), (179, "rebalance"),
   (180, "minval"), (181, "maxval"), (182, "between"), (183, "floor"), (184, "ceil"),
   (185, "round"), (186, "values"), (187, "fold"), (188, "grant"), (189, "set_write_hook"),
   (190, "get_write_hook"), (191, "bit_and"), (192, "bit_or"), (193, "bit_xor"),
   (194, "bit_not"), (195, "bit_sal"), (196, "bit_sar")]

def name? (code : Nat) : Option String :=
  (table.find? (·.1 = code)).map (·.2)

def code? (name : String) : Option Nat :=
  (table.find? (·.2 = name)).map (·.1)

end QueryTrace.Term
