/-
The named characters of HTML whose names begin with l to z.
-/
namespace Paperwork.Html

/-- Names and the code points of the characters they stand for. -/
def lastLowerNames : List (String × List Nat) :=
  [("lAarr", [8666]), ("lArr", [8656]), ("lAtail", [10523]), ("lBarr", [10510]), ("lE", [8806]),
   ("lEg", [10891]), ("lHar", [10594]), ("lacute", [314]), ("laemptyv", [10676]),
   ("lagran", [8466]), ("lambda", [955]), ("lang", [10216]), ("langd", [10641]),
   ("langle", [10216]), ("lap", [10885]), ("laquo", [171]), ("larr", [8592]), ("larrb", [8676]),
   ("larrbfs", [10527]), ("larrfs", [10525]), ("larrhk", [8617]), ("larrlp", [8619]),
   ("larrpl", [10553]), ("larrsim", [10611]), ("larrtl", [8610]), ("lat", [10923]),
   ("latail", [10521]), ("late", [10925]), ("lates", [10925, 65024]), ("lbarr", [10508]),
   ("lbbrk", [10098]), ("lbrace", [123]), ("lbrack", [91]), ("lbrke", [10635]),
   ("lbrksld", [10639]), ("lbrkslu", [10637]), ("lcaron", [318]), ("lcedil", [316]),
   ("lceil", [8968]), ("lcub", [123]), ("lcy", [1083]), ("ldca", [10550]), ("ldquo", [8220]),
   ("ldquor", [8222]), ("ldrdhar", [10599]), ("ldrushar", [10571]), ("ldsh", [8626]),
   ("le", [8804]), ("leftarrow", [8592]), ("leftarrowtail", [8610]), ("leftharpoondown", [8637]),
   ("leftharpoonup", [8636]), ("leftleftarrows", [8647]), ("leftrightarrow", [8596]),
   ("leftrightarrows", [8646]), ("leftrightharpoons", [8651]), ("leftrightsquigarrow", [8621]),
   ("leftthreetimes", [8907]), ("leg", [8922]), ("leq", [8804]), ("leqq", [8806]),
   ("leqslant", [10877]), ("les", [10877]), ("lescc", [10920]), ("lesdot", [10879]),
   ("lesdoto", [10881]), ("lesdotor", [10883]), ("lesg", [8922, 65024]), ("lesges", [10899]),
   ("lessapprox", [10885]), ("lessdot", [8918]), ("lesseqgtr", [8922]), ("lesseqqgtr", [10891]),
   ("lessgtr", [8822]), ("lesssim", [8818]), ("lfisht", [10620]), ("lfloor", [8970]),
   ("lfr", [120105]), ("lg", [8822]), ("lgE", [10897]), ("lhard", [8637]), ("lharu", [8636]),
   ("lharul", [10602]), ("lhblk", [9604]), ("ljcy", [1113]), ("ll", [8810]), ("llarr", [8647]),
   ("llcorner", [8990]), ("llhard", [10603]), ("lltri", [9722]), ("lmidot", [320]),
   ("lmoust", [9136]), ("lmoustache", [9136]), ("lnE", [8808]), ("lnap", [10889]),
   ("lnapprox", [10889]), ("lne", [10887]), ("lneq", [10887]), ("lneqq", [8808]), ("lnsim", [8934]),
   ("loang", [10220]), ("loarr", [8701]), ("lobrk", [10214]), ("longleftarrow", [10229]),
   ("longleftrightarrow", [10231]), ("longmapsto", [10236]), ("longrightarrow", [10230]),
   ("looparrowleft", [8619]), ("looparrowright", [8620]), ("lopar", [10629]), ("lopf", [120157]),
   ("loplus", [10797]), ("lotimes", [10804]), ("lowast", [8727]), ("lowbar", [95]), ("loz", [9674]),
   ("lozenge", [9674]), ("lozf", [10731]), ("lpar", [40]), ("lparlt", [10643]), ("lrarr", [8646]),
   ("lrcorner", [8991]), ("lrhar", [8651]), ("lrhard", [10605]), ("lrm", [8206]), ("lrtri", [8895]),
   ("lsaquo", [8249]), ("lscr", [120001]), ("lsh", [8624]), ("lsim", [8818]), ("lsime", [10893]),
   ("lsimg", [10895]), ("lsqb", [91]), ("lsquo", [8216]), ("lsquor", [8218]), ("lstrok", [322]),
   ("lt", [60]), ("ltcc", [10918]), ("ltcir", [10873]), ("ltdot", [8918]), ("lthree", [8907]),
   ("ltimes", [8905]), ("ltlarr", [10614]), ("ltquest", [10875]), ("ltrPar", [10646]),
   ("ltri", [9667]), ("ltrie", [8884]), ("ltrif", [9666]), ("lurdshar", [10570]),
   ("luruhar", [10598]), ("lvertneqq", [8808, 65024]), ("lvnE", [8808, 65024]), ("mDDot", [8762]),
   ("macr", [175]), ("male", [9794]), ("malt", [10016]), ("maltese", [10016]), ("map", [8614]),
   ("mapsto", [8614]), ("mapstodown", [8615]), ("mapstoleft", [8612]), ("mapstoup", [8613]),
   ("marker", [9646]), ("mcomma", [10793]), ("mcy", [1084]), ("mdash", [8212]),
   ("measuredangle", [8737]), ("mfr", [120106]), ("mho", [8487]), ("micro", [181]), ("mid", [8739]),
   ("midast", [42]), ("midcir", [10992]), ("middot", [183]), ("minus", [8722]), ("minusb", [8863]),
   ("minusd", [8760]), ("minusdu", [10794]), ("mlcp", [10971]), ("mldr", [8230]),
   ("mnplus", [8723]), ("models", [8871]), ("mopf", [120158]), ("mp", [8723]), ("mscr", [120002]),
   ("mstpos", [8766]), ("mu", [956]), ("multimap", [8888]), ("mumap", [8888]), ("nGg", [8921, 824]),
   ("nGt", [8811, 8402]), ("nGtv", [8811, 824]), ("nLeftarrow", [8653]),
   ("nLeftrightarrow", [8654]), ("nLl", [8920, 824]), ("nLt", [8810, 8402]), ("nLtv", [8810, 824]),
   ("nRightarrow", [8655]), ("nVDash", [8879]), ("nVdash", [8878]), ("nabla", [8711]),
   ("nacute", [324]), ("nang", [8736, 8402]), ("nap", [8777]), ("napE", [10864, 824]),
   ("napid", [8779, 824]), ("napos", [329]), ("napprox", [8777]), ("natur", [9838]),
   ("natural", [9838]), ("naturals", [8469]), ("nbsp", [160]), ("nbump", [8782, 824]),
   ("nbumpe", [8783, 824]), ("ncap", [10819]), ("ncaron", [328]), ("ncedil", [326]),
   ("ncong", [8775]), ("ncongdot", [10861, 824]), ("ncup", [10818]), ("ncy", [1085]),
   ("ndash", [8211]), ("ne", [8800]), ("neArr", [8663]), ("nearhk", [10532]), ("nearr", [8599]),
   ("nearrow", [8599]), ("nedot", [8784, 824]), ("nequiv", [8802]), ("nesear", [10536]),
   ("nesim", [8770, 824]), ("nexist", [8708]), ("nexists", [8708]), ("nfr", [120107]),
   ("ngE", [8807, 824]), ("nge", [8817]), ("ngeq", [8817]), ("ngeqq", [8807, 824]),
   ("ngeqslant", [10878, 824]), ("nges", [10878, 824]), ("ngsim", [8821]), ("ngt", [8815]),
   ("ngtr", [8815]), ("nhArr", [8654]), ("nharr", [8622]), ("nhpar", [10994]), ("ni", [8715]),
   ("nis", [8956]), ("nisd", [8954]), ("niv", [8715]), ("njcy", [1114]), ("nlArr", [8653]),
   ("nlE", [8806, 824]), ("nlarr", [8602]), ("nldr", [8229]), ("nle", [8816]),
   ("nleftarrow", [8602]), ("nleftrightarrow", [8622]), ("nleq", [8816]), ("nleqq", [8806, 824]),
   ("nleqslant", [10877, 824]), ("nles", [10877, 824]), ("nless", [8814]), ("nlsim", [8820]),
   ("nlt", [8814]), ("nltri", [8938]), ("nltrie", [8940]), ("nmid", [8740]), ("nopf", [120159]),
   ("not", [172]), ("notin", [8713]), ("notinE", [8953, 824]), ("notindot", [8949, 824]),
   ("notinva", [8713]), ("notinvb", [8951]), ("notinvc", [8950]), ("notni", [8716]),
   ("notniva", [8716]), ("notnivb", [8958]), ("notnivc", [8957]), ("npar", [8742]),
   ("nparallel", [8742]), ("nparsl", [11005, 8421]), ("npart", [8706, 824]), ("npolint", [10772]),
   ("npr", [8832]), ("nprcue", [8928]), ("npre", [10927, 824]), ("nprec", [8832]),
   ("npreceq", [10927, 824]), ("nrArr", [8655]), ("nrarr", [8603]), ("nrarrc", [10547, 824]),
   ("nrarrw", [8605, 824]), ("nrightarrow", [8603]), ("nrtri", [8939]), ("nrtrie", [8941]),
   ("nsc", [8833]), ("nsccue", [8929]), ("nsce", [10928, 824]), ("nscr", [120003]),
   ("nshortmid", [8740]), ("nshortparallel", [8742]), ("nsim", [8769]), ("nsime", [8772]),
   ("nsimeq", [8772]), ("nsmid", [8740]), ("nspar", [8742]), ("nsqsube", [8930]),
   ("nsqsupe", [8931]), ("nsub", [8836]), ("nsubE", [10949, 824]), ("nsube", [8840]),
   ("nsubset", [8834, 8402]), ("nsubseteq", [8840]), ("nsubseteqq", [10949, 824]),
   ("nsucc", [8833]), ("nsucceq", [10928, 824]), ("nsup", [8837]), ("nsupE", [10950, 824]),
   ("nsupe", [8841]), ("nsupset", [8835, 8402]), ("nsupseteq", [8841]),
   ("nsupseteqq", [10950, 824]), ("ntgl", [8825]), ("ntilde", [241]), ("ntlg", [8824]),
   ("ntriangleleft", [8938]), ("ntrianglelefteq", [8940]), ("ntriangleright", [8939]),
   ("ntrianglerighteq", [8941]), ("nu", [957]), ("num", [35]), ("numero", [8470]),
   ("numsp", [8199]), ("nvDash", [8877]), ("nvHarr", [10500]), ("nvap", [8781, 8402]),
   ("nvdash", [8876]), ("nvge", [8805, 8402]), ("nvgt", [62, 8402]), ("nvinfin", [10718]),
   ("nvlArr", [10498]), ("nvle", [8804, 8402]), ("nvlt", [60, 8402]), ("nvltrie", [8884, 8402]),
   ("nvrArr", [10499]), ("nvrtrie", [8885, 8402]), ("nvsim", [8764, 8402]), ("nwArr", [8662]),
   ("nwarhk", [10531]), ("nwarr", [8598]), ("nwarrow", [8598]), ("nwnear", [10535]), ("oS", [9416]),
   ("oacute", [243]), ("oast", [8859]), ("ocir", [8858]), ("ocirc", [244]), ("ocy", [1086]),
   ("odash", [8861]), ("odblac", [337]), ("odiv", [10808]), ("odot", [8857]), ("odsold", [10684]),
   ("oelig", [339]), ("ofcir", [10687]), ("ofr", [120108]), ("ogon", [731]), ("ograve", [242]),
   ("ogt", [10689]), ("ohbar", [10677]), ("ohm", [937]), ("oint", [8750]), ("olarr", [8634]),
   ("olcir", [10686]), ("olcross", [10683]), ("oline", [8254]), ("olt", [10688]), ("omacr", [333]),
   ("omega", [969]), ("omicron", [959]), ("omid", [10678]), ("ominus", [8854]), ("oopf", [120160]),
   ("opar", [10679]), ("operp", [10681]), ("oplus", [8853]), ("or", [8744]), ("orarr", [8635]),
   ("ord", [10845]), ("order", [8500]), ("orderof", [8500]), ("ordf", [170]), ("ordm", [186]),
   ("origof", [8886]), ("oror", [10838]), ("orslope", [10839]), ("orv", [10843]), ("oscr", [8500]),
   ("oslash", [248]), ("osol", [8856]), ("otilde", [245]), ("otimes", [8855]),
   ("otimesas", [10806]), ("ouml", [246]), ("ovbar", [9021]), ("par", [8741]), ("para", [182]),
   ("parallel", [8741]), ("parsim", [10995]), ("parsl", [11005]), ("part", [8706]), ("pcy", [1087]),
   ("percnt", [37]), ("period", [46]), ("permil", [8240]), ("perp", [8869]), ("pertenk", [8241]),
   ("pfr", [120109]), ("phi", [966]), ("phiv", [981]), ("phmmat", [8499]), ("phone", [9742]),
   ("pi", [960]), ("pitchfork", [8916]), ("piv", [982]), ("planck", [8463]), ("planckh", [8462]),
   ("plankv", [8463]), ("plus", [43]), ("plusacir", [10787]), ("plusb", [8862]),
   ("pluscir", [10786]), ("plusdo", [8724]), ("plusdu", [10789]), ("pluse", [10866]),
   ("plusmn", [177]), ("plussim", [10790]), ("plustwo", [10791]), ("pm", [177]),
   ("pointint", [10773]), ("popf", [120161]), ("pound", [163]), ("pr", [8826]), ("prE", [10931]),
   ("prap", [10935]), ("prcue", [8828]), ("pre", [10927]), ("prec", [8826]),
   ("precapprox", [10935]), ("preccurlyeq", [8828]), ("preceq", [10927]), ("precnapprox", [10937]),
   ("precneqq", [10933]), ("precnsim", [8936]), ("precsim", [8830]), ("prime", [8242]),
   ("primes", [8473]), ("prnE", [10933]), ("prnap", [10937]), ("prnsim", [8936]), ("prod", [8719]),
   ("profalar", [9006]), ("profline", [8978]), ("profsurf", [8979]), ("prop", [8733]),
   ("propto", [8733]), ("prsim", [8830]), ("prurel", [8880]), ("pscr", [120005]), ("psi", [968]),
   ("puncsp", [8200]), ("qfr", [120110]), ("qint", [10764]), ("qopf", [120162]), ("qprime", [8279]),
   ("qscr", [120006]), ("quaternions", [8461]), ("quatint", [10774]), ("quest", [63]),
   ("questeq", [8799]), ("quot", [34]), ("rAarr", [8667]), ("rArr", [8658]), ("rAtail", [10524]),
   ("rBarr", [10511]), ("rHar", [10596]), ("race", [8765, 817]), ("racute", [341]),
   ("radic", [8730]), ("raemptyv", [10675]), ("rang", [10217]), ("rangd", [10642]),
   ("range", [10661]), ("rangle", [10217]), ("raquo", [187]), ("rarr", [8594]), ("rarrap", [10613]),
   ("rarrb", [8677]), ("rarrbfs", [10528]), ("rarrc", [10547]), ("rarrfs", [10526]),
   ("rarrhk", [8618]), ("rarrlp", [8620]), ("rarrpl", [10565]), ("rarrsim", [10612]),
   ("rarrtl", [8611]), ("rarrw", [8605]), ("ratail", [10522]), ("ratio", [8758]),
   ("rationals", [8474]), ("rbarr", [10509]), ("rbbrk", [10099]), ("rbrace", [125]),
   ("rbrack", [93]), ("rbrke", [10636]), ("rbrksld", [10638]), ("rbrkslu", [10640]),
   ("rcaron", [345]), ("rcedil", [343]), ("rceil", [8969]), ("rcub", [125]), ("rcy", [1088]),
   ("rdca", [10551]), ("rdldhar", [10601]), ("rdquo", [8221]), ("rdquor", [8221]), ("rdsh", [8627]),
   ("real", [8476]), ("realine", [8475]), ("realpart", [8476]), ("reals", [8477]), ("rect", [9645]),
   ("reg", [174]), ("rfisht", [10621]), ("rfloor", [8971]), ("rfr", [120111]), ("rhard", [8641]),
   ("rharu", [8640]), ("rharul", [10604]), ("rho", [961]), ("rhov", [1009]), ("rightarrow", [8594]),
   ("rightarrowtail", [8611]), ("rightharpoondown", [8641]), ("rightharpoonup", [8640]),
   ("rightleftarrows", [8644]), ("rightleftharpoons", [8652]), ("rightrightarrows", [8649]),
   ("rightsquigarrow", [8605]), ("rightthreetimes", [8908]), ("ring", [730]),
   ("risingdotseq", [8787]), ("rlarr", [8644]), ("rlhar", [8652]), ("rlm", [8207]),
   ("rmoust", [9137]), ("rmoustache", [9137]), ("rnmid", [10990]), ("roang", [10221]),
   ("roarr", [8702]), ("robrk", [10215]), ("ropar", [10630]), ("ropf", [120163]),
   ("roplus", [10798]), ("rotimes", [10805]), ("rpar", [41]), ("rpargt", [10644]),
   ("rppolint", [10770]), ("rrarr", [8649]), ("rsaquo", [8250]), ("rscr", [120007]),
   ("rsh", [8625]), ("rsqb", [93]), ("rsquo", [8217]), ("rsquor", [8217]), ("rthree", [8908]),
   ("rtimes", [8906]), ("rtri", [9657]), ("rtrie", [8885]), ("rtrif", [9656]),
   ("rtriltri", [10702]), ("ruluhar", [10600]), ("rx", [8478]), ("sacute", [347]),
   ("sbquo", [8218]), ("sc", [8827]), ("scE", [10932]), ("scap", [10936]), ("scaron", [353]),
   ("sccue", [8829]), ("sce", [10928]), ("scedil", [351]), ("scirc", [349]), ("scnE", [10934]),
   ("scnap", [10938]), ("scnsim", [8937]), ("scpolint", [10771]), ("scsim", [8831]),
   ("scy", [1089]), ("sdot", [8901]), ("sdotb", [8865]), ("sdote", [10854]), ("seArr", [8664]),
   ("searhk", [10533]), ("searr", [8600]), ("searrow", [8600]), ("sect", [167]), ("semi", [59]),
   ("seswar", [10537]), ("setminus", [8726]), ("setmn", [8726]), ("sext", [10038]),
   ("sfr", [120112]), ("sfrown", [8994]), ("sharp", [9839]), ("shchcy", [1097]), ("shcy", [1096]),
   ("shortmid", [8739]), ("shortparallel", [8741]), ("shy", [173]), ("sigma", [963]),
   ("sigmaf", [962]), ("sigmav", [962]), ("sim", [8764]), ("simdot", [10858]), ("sime", [8771]),
   ("simeq", [8771]), ("simg", [10910]), ("simgE", [10912]), ("siml", [10909]), ("simlE", [10911]),
   ("simne", [8774]), ("simplus", [10788]), ("simrarr", [10610]), ("slarr", [8592]),
   ("smallsetminus", [8726]), ("smashp", [10803]), ("smeparsl", [10724]), ("smid", [8739]),
   ("smile", [8995]), ("smt", [10922]), ("smte", [10924]), ("smtes", [10924, 65024]),
   ("softcy", [1100]), ("sol", [47]), ("solb", [10692]), ("solbar", [9023]), ("sopf", [120164]),
   ("spades", [9824]), ("spadesuit", [9824]), ("spar", [8741]), ("sqcap", [8851]),
   ("sqcaps", [8851, 65024]), ("sqcup", [8852]), ("sqcups", [8852, 65024]), ("sqsub", [8847]),
   ("sqsube", [8849]), ("sqsubset", [8847]), ("sqsubseteq", [8849]), ("sqsup", [8848]),
   ("sqsupe", [8850]), ("sqsupset", [8848]), ("sqsupseteq", [8850]), ("squ", [9633]),
   ("square", [9633]), ("squarf", [9642]), ("squf", [9642]), ("srarr", [8594]), ("sscr", [120008]),
   ("ssetmn", [8726]), ("ssmile", [8995]), ("sstarf", [8902]), ("star", [9734]), ("starf", [9733]),
   ("straightepsilon", [1013]), ("straightphi", [981]), ("strns", [175]), ("sub", [8834]),
   ("subE", [10949]), ("subdot", [10941]), ("sube", [8838]), ("subedot", [10947]),
   ("submult", [10945]), ("subnE", [10955]), ("subne", [8842]), ("subplus", [10943]),
   ("subrarr", [10617]), ("subset", [8834]), ("subseteq", [8838]), ("subseteqq", [10949]),
   ("subsetneq", [8842]), ("subsetneqq", [10955]), ("subsim", [10951]), ("subsub", [10965]),
   ("subsup", [10963]), ("succ", [8827]), ("succapprox", [10936]), ("succcurlyeq", [8829]),
   ("succeq", [10928]), ("succnapprox", [10938]), ("succneqq", [10934]), ("succnsim", [8937]),
   ("succsim", [8831]), ("sum", [8721]), ("sung", [9834]), ("sup", [8835]), ("sup1", [185]),
   ("sup2", [178]), ("sup3", [179]), ("supE", [10950]), ("supdot", [10942]), ("supdsub", [10968]),
   ("supe", [8839]), ("supedot", [10948]), ("suphsol", [10185]), ("suphsub", [10967]),
   ("suplarr", [10619]), ("supmult", [10946]), ("supnE", [10956]), ("supne", [8843]),
   ("supplus", [10944]), ("supset", [8835]), ("supseteq", [8839]), ("supseteqq", [10950]),
   ("supsetneq", [8843]), ("supsetneqq", [10956]), ("supsim", [10952]), ("supsub", [10964]),
   ("supsup", [10966]), ("swArr", [8665]), ("swarhk", [10534]), ("swarr", [8601]),
   ("swarrow", [8601]), ("swnwar", [10538]), ("szlig", [223]), ("target", [8982]), ("tau", [964]),
   ("tbrk", [9140]), ("tcaron", [357]), ("tcedil", [355]), ("tcy", [1090]), ("tdot", [8411]),
   ("telrec", [8981]), ("tfr", [120113]), ("there4", [8756]), ("therefore", [8756]),
   ("theta", [952]), ("thetasym", [977]), ("thetav", [977]), ("thickapprox", [8776]),
   ("thicksim", [8764]), ("thinsp", [8201]), ("thkap", [8776]), ("thksim", [8764]),
   ("thorn", [254]), ("tilde", [732]), ("times", [215]), ("timesb", [8864]), ("timesbar", [10801]),
   ("timesd", [10800]), ("tint", [8749]), ("toea", [10536]), ("top", [8868]), ("topbot", [9014]),
   ("topcir", [10993]), ("topf", [120165]), ("topfork", [10970]), ("tosa", [10537]),
   ("tprime", [8244]), ("trade", [8482]), ("triangle", [9653]), ("triangledown", [9663]),
   ("triangleleft", [9667]), ("trianglelefteq", [8884]), ("triangleq", [8796]),
   ("triangleright", [9657]), ("trianglerighteq", [8885]), ("tridot", [9708]), ("trie", [8796]),
   ("triminus", [10810]), ("triplus", [10809]), ("trisb", [10701]), ("tritime", [10811]),
   ("trpezium", [9186]), ("tscr", [120009]), ("tscy", [1094]), ("tshcy", [1115]), ("tstrok", [359]),
   ("twixt", [8812]), ("twoheadleftarrow", [8606]), ("twoheadrightarrow", [8608]), ("uArr", [8657]),
   ("uHar", [10595]), ("uacute", [250]), ("uarr", [8593]), ("ubrcy", [1118]), ("ubreve", [365]),
   ("ucirc", [251]), ("ucy", [1091]), ("udarr", [8645]), ("udblac", [369]), ("udhar", [10606]),
   ("ufisht", [10622]), ("ufr", [120114]), ("ugrave", [249]), ("uharl", [8639]), ("uharr", [8638]),
   ("uhblk", [9600]), ("ulcorn", [8988]), ("ulcorner", [8988]), ("ulcrop", [8975]),
   ("ultri", [9720]), ("umacr", [363]), ("uml", [168]), ("uogon", [371]), ("uopf", [120166]),
   ("uparrow", [8593]), ("updownarrow", [8597]), ("upharpoonleft", [8639]),
   ("upharpoonright", [8638]), ("uplus", [8846]), ("upsi", [965]), ("upsih", [978]),
   ("upsilon", [965]), ("upuparrows", [8648]), ("urcorn", [8989]), ("urcorner", [8989]),
   ("urcrop", [8974]), ("uring", [367]), ("urtri", [9721]), ("uscr", [120010]), ("utdot", [8944]),
   ("utilde", [361]), ("utri", [9653]), ("utrif", [9652]), ("uuarr", [8648]), ("uuml", [252]),
   ("uwangle", [10663]), ("vArr", [8661]), ("vBar", [10984]), ("vBarv", [10985]), ("vDash", [8872]),
   ("vangrt", [10652]), ("varepsilon", [1013]), ("varkappa", [1008]), ("varnothing", [8709]),
   ("varphi", [981]), ("varpi", [982]), ("varpropto", [8733]), ("varr", [8597]), ("varrho", [1009]),
   ("varsigma", [962]), ("varsubsetneq", [8842, 65024]), ("varsubsetneqq", [10955, 65024]),
   ("varsupsetneq", [8843, 65024]), ("varsupsetneqq", [10956, 65024]), ("vartheta", [977]),
   ("vartriangleleft", [8882]), ("vartriangleright", [8883]), ("vcy", [1074]), ("vdash", [8866]),
   ("vee", [8744]), ("veebar", [8891]), ("veeeq", [8794]), ("vellip", [8942]), ("verbar", [124]),
   ("vert", [124]), ("vfr", [120115]), ("vltri", [8882]), ("vnsub", [8834, 8402]),
   ("vnsup", [8835, 8402]), ("vopf", [120167]), ("vprop", [8733]), ("vrtri", [8883]),
   ("vscr", [120011]), ("vsubnE", [10955, 65024]), ("vsubne", [8842, 65024]),
   ("vsupnE", [10956, 65024]), ("vsupne", [8843, 65024]), ("vzigzag", [10650]), ("wcirc", [373]),
   ("wedbar", [10847]), ("wedge", [8743]), ("wedgeq", [8793]), ("weierp", [8472]),
   ("wfr", [120116]), ("wopf", [120168]), ("wp", [8472]), ("wr", [8768]), ("wreath", [8768]),
   ("wscr", [120012]), ("xcap", [8898]), ("xcirc", [9711]), ("xcup", [8899]), ("xdtri", [9661]),
   ("xfr", [120117]), ("xhArr", [10234]), ("xharr", [10231]), ("xi", [958]), ("xlArr", [10232]),
   ("xlarr", [10229]), ("xmap", [10236]), ("xnis", [8955]), ("xodot", [10752]), ("xopf", [120169]),
   ("xoplus", [10753]), ("xotime", [10754]), ("xrArr", [10233]), ("xrarr", [10230]),
   ("xscr", [120013]), ("xsqcup", [10758]), ("xuplus", [10756]), ("xutri", [9651]),
   ("xvee", [8897]), ("xwedge", [8896]), ("yacute", [253]), ("yacy", [1103]), ("ycirc", [375]),
   ("ycy", [1099]), ("yen", [165]), ("yfr", [120118]), ("yicy", [1111]), ("yopf", [120170]),
   ("yscr", [120014]), ("yucy", [1102]), ("yuml", [255]), ("zacute", [378]), ("zcaron", [382]),
   ("zcy", [1079]), ("zdot", [380]), ("zeetrf", [8488]), ("zeta", [950]), ("zfr", [120119]),
   ("zhcy", [1078]), ("zigrarr", [8669]), ("zopf", [120171]), ("zscr", [120015]), ("zwj", [8205]),
   ("zwnj", [8204])]

end Paperwork.Html
