namespace CatalogSearch.Settings

def exampleLines : List String := [
    "# facet-search configuration",
    "#",
    "# Location: ~/.config/facet-search/config.toml",
    "",
    "[elasticsearch]",
    "# URL of the index searched and updated",
    "url = \"http://localhost:9200/products\"",
    "# Per-request timeout in seconds",
    "timeout = 30",
    "",
    "[search]",
    "# Fields searched by FullText / MostFields criteria (\"field^boost\" allowed)",
    "full_text_fields = [\"name^3\", \"brand^2\", \"description\", \"full_text_search\"]",
    "# Field matched by quoted full-text queries",
    "phrase_field = \"name\"",
    "# Sort by relevance before the requested sort attribute",
    "sort_by_score_first = false",
    "# Threads used for sibling facet queries (1 = one after another)",
    "sibling_workers = 1",
    "",
    "[recency_boost]",
    "# Boost documents created recently",
    "enabled = false",
    "field = \"created_at\"",
    "# [boost, months back]",
    "tiers = [[5, 1], [4, 2], [3, 3], [2, 12], [1, 24]]",
    "",
    "[display]",
    "colored_output = true",
    ""
  ]

def exampleText : String :=
  "\n".intercalate exampleLines

end CatalogSearch.Settings
