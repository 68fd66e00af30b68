import ContractScan.Text.NameRun

/-! # Names: notations

Names from the signs of music up to the Arabic letters of mathematics.
-/

set_option maxRecDepth 4000

namespace ContractScan.Text

def notationNames : List NameRun := [
    ⟨0x1D000, "BYZANTINE MUSICAL SYMBOL ", "PSILI;DASEIA;PERISPOMENI;OXEIA EKFONITIKON;OXEIA DIPLI;
      VAREIA EKFONITIKON;VAREIA DIPLI;KATHISTI;SYRMATIKI;PARAKLITIKI;YPOKRISIS;YPOKRISIS DIPLI;
      KREMASTI;APESO EKFONITIKON;EXO EKFONITIKON;TELEIA;KENTIMATA;APOSTROFOS;APOSTROFOS DIPLI;
      SYNEVMA;THITA;OLIGON ARCHAION;GORGON ARCHAION;PSILON;CHAMILON;VATHY;ISON ARCHAION;
      KENTIMA ARCHAION;KENTIMATA ARCHAION;SAXIMATA;PARICHON;STAVROS APODEXIA;OXEIAI ARCHAION;
      VAREIAI ARCHAION;APODERMA ARCHAION;APOTHEMA;KLASMA;REVMA;PIASMA ARCHAION;TINAGMA;ANATRICHISMA;
      SEISMA;SYNAGMA ARCHAION;SYNAGMA META STAVROU;OYRANISMA ARCHAION;THEMA;LEMOI;DYO;TRIA;TESSERA;
      KRATIMATA;APESO EXO NEO;FTHORA ARCHAION;IMIFTHORA;TROMIKON ARCHAION;KATAVA TROMIKON;PELASTON;
      PSIFISTON;KONTEVMA;CHOREVMA ARCHAION;RAPISMA;PARAKALESMA ARCHAION;PARAKLITIKI ARCHAION;
      ICHADIN;NANA;PETASMA;KONTEVMA ALLO;TROMIKON ALLO;STRAGGISMATA;GRONTHISMATA;ISON NEO;
      OLIGON NEO;OXEIA NEO;PETASTI;KOUFISMA;PETASTOKOUFISMA;KRATIMOKOUFISMA;PELASTON NEO;
      KENTIMATA NEO ANO;KENTIMA NEO ANO;YPSILI;APOSTROFOS NEO;APOSTROFOI SYNDESMOS NEO;YPORROI;
      KRATIMOYPORROON;ELAFRON;CHAMILI;MIKRON ISON;VAREIA NEO;PIASMA NEO;PSIFISTON NEO;OMALON;
      ANTIKENOMA;LYGISMA;PARAKLITIKI NEO;PARAKALESMA NEO;ETERON PARAKALESMA;KYLISMA;ANTIKENOKYLISMA;
      TROMIKON NEO;EKSTREPTON;SYNAGMA NEO;SYRMA;CHOREVMA NEO;EPEGERMA;SEISMA NEO;XIRON KLASMA;
      TROMIKOPSIFISTON;PSIFISTOLYGISMA;TROMIKOLYGISMA;TROMIKOPARAKALESMA;PSIFISTOPARAKALESMA;
      TROMIKOSYNAGMA;PSIFISTOSYNAGMA;GORGOSYNTHETON;ARGOSYNTHETON;ETERON ARGOSYNTHETON;
      OYRANISMA NEO;THEMATISMOS ESO;THEMATISMOS EXO;THEMA APLOUN;THES KAI APOTHES;KATAVASMA;
      ENDOFONON;YFEN KATO;YFEN ANO;STAVROS;KLASMA ANO;DIPLI ARCHAION;KRATIMA ARCHAION;KRATIMA ALLO;
      KRATIMA NEO;APODERMA NEO;APLI;DIPLI;TRIPLI;TETRAPLI;KORONIS;LEIMMA ENOS CHRONOU;
      LEIMMA DYO CHRONON;LEIMMA TRION CHRONON;LEIMMA TESSARON CHRONON;LEIMMA IMISEOS CHRONOU;
      GORGON NEO ANO;GORGON PARESTIGMENON ARISTERA;GORGON PARESTIGMENON DEXIA;DIGORGON;
      DIGORGON PARESTIGMENON ARISTERA KATO;DIGORGON PARESTIGMENON ARISTERA ANO;
      DIGORGON PARESTIGMENON DEXIA;TRIGORGON;ARGON;IMIDIARGON;DIARGON;AGOGI POLI ARGI;
      AGOGI ARGOTERI;AGOGI ARGI;AGOGI METRIA;AGOGI MESI;AGOGI GORGI;AGOGI GORGOTERI;
      AGOGI POLI GORGI;MARTYRIA PROTOS ICHOS;MARTYRIA ALLI PROTOS ICHOS;MARTYRIA DEYTEROS ICHOS;
      MARTYRIA ALLI DEYTEROS ICHOS;MARTYRIA TRITOS ICHOS;MARTYRIA TRIFONIAS;MARTYRIA TETARTOS ICHOS;
      MARTYRIA TETARTOS LEGETOS ICHOS;MARTYRIA LEGETOS ICHOS;MARTYRIA PLAGIOS ICHOS;
      ISAKIA TELOUS ICHIMATOS;APOSTROFOI TELOUS ICHIMATOS;FANEROSIS TETRAFONIAS;
      FANEROSIS MONOFONIAS;FANEROSIS DIFONIAS;MARTYRIA VARYS ICHOS;MARTYRIA PROTOVARYS ICHOS;
      MARTYRIA PLAGIOS TETARTOS ICHOS;GORTHMIKON N APLOUN;GORTHMIKON N DIPLOUN;
      ENARXIS KAI FTHORA VOU;IMIFONON;IMIFTHORON;FTHORA ARCHAION DEYTEROU ICHOU;FTHORA DIATONIKI PA;
      FTHORA DIATONIKI NANA;FTHORA NAOS ICHOS;FTHORA DIATONIKI DI;FTHORA SKLIRON DIATONON DI;
      FTHORA DIATONIKI KE;FTHORA DIATONIKI ZO;FTHORA DIATONIKI NI KATO;FTHORA DIATONIKI NI ANO;
      FTHORA MALAKON CHROMA DIFONIAS;FTHORA MALAKON CHROMA MONOFONIAS;FHTORA SKLIRON CHROMA VASIS;
      FTHORA SKLIRON CHROMA SYNAFI;FTHORA NENANO;CHROA ZYGOS;CHROA KLITON;CHROA SPATHI;
      FTHORA I YFESIS TETARTIMORION;FTHORA ENARMONIOS ANTIFONIA;YFESIS TRITIMORION;
      DIESIS TRITIMORION;DIESIS TETARTIMORION;DIESIS APLI DYO DODEKATA;
      DIESIS MONOGRAMMOS TESSERA DODEKATA;DIESIS DIGRAMMOS EX DODEKATA;
      DIESIS TRIGRAMMOS OKTO DODEKATA;YFESIS APLI DYO DODEKATA;YFESIS MONOGRAMMOS TESSERA DODEKATA;
      YFESIS DIGRAMMOS EX DODEKATA;YFESIS TRIGRAMMOS OKTO DODEKATA;GENIKI DIESIS;GENIKI YFESIS;
      DIASTOLI APLI MIKRI;DIASTOLI APLI MEGALI;DIASTOLI DIPLI;DIASTOLI THESEOS;SIMANSIS THESEOS;
      SIMANSIS THESEOS DISIMOU;SIMANSIS THESEOS TRISIMOU;SIMANSIS THESEOS TETRASIMOU;
      SIMANSIS ARSEOS;SIMANSIS ARSEOS DISIMOU;SIMANSIS ARSEOS TRISIMOU;SIMANSIS ARSEOS TETRASIMOU;
      DIGRAMMA GG;DIFTOGGOS OU;STIGMA;ARKTIKO PA;ARKTIKO VOU;ARKTIKO GA;ARKTIKO DI;ARKTIKO KE;
      ARKTIKO ZO;ARKTIKO NI;KENTIMATA NEO MESO;KENTIMA NEO MESO;KENTIMATA NEO KATO;KENTIMA NEO KATO;
      KLASMA KATO;GORGON NEO KATO"⟩, ⟨0x1D100, "MUSICAL SYMBOL ", "SINGLE BARLINE;DOUBLE BARLINE;
      FINAL BARLINE;REVERSE FINAL BARLINE;DASHED BARLINE;SHORT BARLINE;LEFT REPEAT SIGN;
      RIGHT REPEAT SIGN;REPEAT DOTS;DAL SEGNO;DA CAPO;SEGNO;CODA;REPEATED FIGURE-1;
      REPEATED FIGURE-2;REPEATED FIGURE-3;FERMATA;FERMATA BELOW;BREATH MARK;CAESURA;BRACE;BRACKET;
      ONE-LINE STAFF;TWO-LINE STAFF;THREE-LINE STAFF;FOUR-LINE STAFF;FIVE-LINE STAFF;SIX-LINE STAFF;
      SIX-STRING FRETBOARD;FOUR-STRING FRETBOARD;G CLEF;G CLEF OTTAVA ALTA;G CLEF OTTAVA BASSA;
      C CLEF;F CLEF;F CLEF OTTAVA ALTA;F CLEF OTTAVA BASSA;DRUM CLEF-1;DRUM CLEF-2"⟩,
    ⟨0x1D129, "MUSICAL SYMBOL ", "MULTIPLE MEASURE REST;DOUBLE SHARP;DOUBLE FLAT;FLAT UP;FLAT DOWN;
      NATURAL UP;NATURAL DOWN;SHARP UP;SHARP DOWN;QUARTER TONE SHARP;QUARTER TONE FLAT;COMMON TIME;
      CUT TIME;OTTAVA ALTA;OTTAVA BASSA;QUINDICESIMA ALTA;QUINDICESIMA BASSA;MULTI REST;WHOLE REST;
      HALF REST;QUARTER REST;EIGHTH REST;SIXTEENTH REST;THIRTY-SECOND REST;SIXTY-FOURTH REST;
      ONE HUNDRED TWENTY-EIGHTH REST;X NOTEHEAD;PLUS NOTEHEAD;CIRCLE X NOTEHEAD;
      SQUARE NOTEHEAD WHITE;SQUARE NOTEHEAD BLACK"⟩,
    ⟨0x1D148, "MUSICAL SYMBOL TRIANGLE NOTEHEAD ", "UP WHITE;UP BLACK;LEFT WHITE;LEFT BLACK;
      RIGHT WHITE;RIGHT BLACK;DOWN WHITE;DOWN BLACK;UP RIGHT WHITE;UP RIGHT BLACK"⟩,
    ⟨0x1D152, "MUSICAL SYMBOL ", "MOON NOTEHEAD WHITE;MOON NOTEHEAD BLACK;
      TRIANGLE-ROUND NOTEHEAD DOWN WHITE;TRIANGLE-ROUND NOTEHEAD DOWN BLACK;PARENTHESIS NOTEHEAD;
      VOID NOTEHEAD;NOTEHEAD BLACK;NULL NOTEHEAD;CLUSTER NOTEHEAD WHITE;CLUSTER NOTEHEAD BLACK;
      BREVE;WHOLE NOTE;HALF NOTE;QUARTER NOTE;EIGHTH NOTE;SIXTEENTH NOTE;THIRTY-SECOND NOTE;
      SIXTY-FOURTH NOTE;ONE HUNDRED TWENTY-EIGHTH NOTE;COMBINING STEM;COMBINING SPRECHGESANG STEM;
      COMBINING TREMOLO-1;COMBINING TREMOLO-2;COMBINING TREMOLO-3;FINGERED TREMOLO-1;
      FINGERED TREMOLO-2;FINGERED TREMOLO-3;COMBINING AUGMENTATION DOT;COMBINING FLAG-1;
      COMBINING FLAG-2;COMBINING FLAG-3;COMBINING FLAG-4;COMBINING FLAG-5;BEGIN BEAM;END BEAM;
      BEGIN TIE;END TIE;BEGIN SLUR;END SLUR;BEGIN PHRASE;END PHRASE"⟩,
    ⟨0x1D17B, "MUSICAL SYMBOL COMBINING ", "ACCENT;STACCATO;TENUTO;STACCATISSIMO;MARCATO;
      MARCATO-STACCATO;ACCENT-STACCATO;LOURE"⟩, ⟨0x1D183, "MUSICAL SYMBOL ARPEGGIATO ", "UP;DOWN"⟩,
    ⟨0x1D185, "MUSICAL SYMBOL COMBINING ", "DOIT;RIP;FLIP;SMEAR;BEND;DOUBLE TONGUE;TRIPLE TONGUE"⟩,
    ⟨0x1D18C, "MUSICAL SYMBOL ", "RINFORZANDO;SUBITO;Z;PIANO;MEZZO;FORTE;CRESCENDO;DECRESCENDO;
      GRACE NOTE SLASH;GRACE NOTE NO SLASH;TR;TURN;INVERTED TURN;TURN SLASH;TURN UP"⟩,
    ⟨0x1D19B, "MUSICAL SYMBOL ORNAMENT ", "STROKE-1;STROKE-2;STROKE-3;STROKE-4;STROKE-5;STROKE-6;
      STROKE-7;STROKE-8;STROKE-9;STROKE-10;STROKE-11"⟩, ⟨0x1D1A6, "MUSICAL SYMBOL ", "HAUPTSTIMME;
      NEBENSTIMME;END OF STIMME;DEGREE SLASH;COMBINING DOWN BOW;COMBINING UP BOW;COMBINING HARMONIC;
      COMBINING SNAP PIZZICATO;PEDAL MARK;PEDAL UP MARK;HALF PEDAL MARK;GLISSANDO UP;GLISSANDO DOWN;
      WITH FINGERNAILS;DAMP;DAMP ALL;MAXIMA;LONGA;BREVIS;SEMIBREVIS WHITE;SEMIBREVIS BLACK;MINIMA;
      MINIMA BLACK;SEMIMINIMA WHITE;SEMIMINIMA BLACK;FUSA WHITE;FUSA BLACK;LONGA PERFECTA REST;
      LONGA IMPERFECTA REST;BREVIS REST;SEMIBREVIS REST;MINIMA REST;SEMIMINIMA REST"⟩,
    ⟨0x1D1C7, "MUSICAL SYMBOL TEMPUS PERFECTUM CUM PROLATIONE ", "PERFECTA;IMPERFECTA;
      PERFECTA DIMINUTION-1"⟩,
    ⟨0x1D1CA, "MUSICAL SYMBOL TEMPUS IMPERFECTUM CUM PROLATIONE ", "PERFECTA;IMPERFECTA;
      IMPERFECTA DIMINUTION-1;IMPERFECTA DIMINUTION-2;IMPERFECTA DIMINUTION-3"⟩,
    ⟨0x1D1CF, "MUSICAL SYMBOL ", "CROIX;GREGORIAN C CLEF;GREGORIAN F CLEF;SQUARE B;VIRGA;PODATUS;
      CLIVIS;SCANDICUS;CLIMACUS;TORCULUS;PORRECTUS;PORRECTUS FLEXUS;SCANDICUS FLEXUS;
      TORCULUS RESUPINUS;PES SUBPUNCTIS"⟩, ⟨0x1D1DE, "MUSICAL SYMBOL KIEVAN ", "C CLEF;END OF PIECE;
      FINAL NOTE;RECITATIVE MARK;WHOLE NOTE;HALF NOTE;QUARTER NOTE STEM DOWN;QUARTER NOTE STEM UP;
      EIGHTH NOTE STEM DOWN;EIGHTH NOTE STEM UP;FLAT SIGN"⟩, ⟨0x1D1E9, "MUSICAL SYMBOL ", "SORI;
      KORON"⟩, ⟨0x1D200, "GREEK VOCAL NOTATION ", "SYMBOL-1;SYMBOL-2;SYMBOL-3;SYMBOL-4;SYMBOL-5;
      SYMBOL-6;SYMBOL-7;SYMBOL-8;SYMBOL-9;SYMBOL-10;SYMBOL-11;SYMBOL-12;SYMBOL-13;SYMBOL-14;
      SYMBOL-15;SYMBOL-16;SYMBOL-17;SYMBOL-18;SYMBOL-19;SYMBOL-20;SYMBOL-21;SYMBOL-22;SYMBOL-23;
      SYMBOL-24;SYMBOL-50;SYMBOL-51;SYMBOL-52;SYMBOL-53;SYMBOL-54"⟩,
    ⟨0x1D21D, "GREEK INSTRUMENTAL NOTATION ", "SYMBOL-1;SYMBOL-2;SYMBOL-4;SYMBOL-5;SYMBOL-7;
      SYMBOL-8;SYMBOL-11;SYMBOL-12;SYMBOL-13;SYMBOL-14;SYMBOL-17;SYMBOL-18;SYMBOL-19;SYMBOL-23;
      SYMBOL-24;SYMBOL-25;SYMBOL-26;SYMBOL-27;SYMBOL-29;SYMBOL-30;SYMBOL-32;SYMBOL-36;SYMBOL-37;
      SYMBOL-38;SYMBOL-39;SYMBOL-40;SYMBOL-42;SYMBOL-43;SYMBOL-45;SYMBOL-47;SYMBOL-48;SYMBOL-49;
      SYMBOL-50;SYMBOL-51;SYMBOL-52;SYMBOL-53;SYMBOL-54"⟩,
    ⟨0x1D242, "COMBINING GREEK MUSICAL ", "TRISEME;TETRASEME;PENTASEME"⟩,
    ⟨0x1D245, "", "GREEK MUSICAL LEIMMA"⟩, ⟨0x1D2E0, "MAYAN NUMERAL ", "ZERO;ONE;TWO;THREE;FOUR;
      FIVE;SIX;SEVEN;EIGHT;NINE;TEN;ELEVEN;TWELVE;THIRTEEN;FOURTEEN;FIFTEEN;SIXTEEN;SEVENTEEN;
      EIGHTEEN;NINETEEN"⟩, ⟨0x1D300, "", "MONOGRAM FOR EARTH"⟩,
    ⟨0x1D301, "DIGRAM FOR ", "HEAVENLY EARTH;HUMAN EARTH;EARTHLY HEAVEN;EARTHLY HUMAN;EARTH"⟩,
    ⟨0x1D306, "TETRAGRAM FOR ", "CENTRE;FULL CIRCLE;MIRED;BARRIER;KEEPING SMALL;CONTRARIETY;ASCENT;
      OPPOSITION;BRANCHING OUT;DEFECTIVENESS OR DISTORTION;DIVERGENCE;YOUTHFULNESS;INCREASE;
      PENETRATION;REACH;CONTACT;HOLDING BACK;WAITING;FOLLOWING;ADVANCE;RELEASE;RESISTANCE;EASE;JOY;
      CONTENTION;ENDEAVOUR;DUTIES;CHANGE;DECISIVENESS;BOLD RESOLUTION;PACKING;LEGION;CLOSENESS;
      KINSHIP;GATHERING;STRENGTH;PURITY;FULLNESS;RESIDENCE;LAW OR MODEL;RESPONSE;GOING TO MEET;
      ENCOUNTERS;STOVE;GREATNESS;ENLARGEMENT;PATTERN;RITUAL;FLIGHT;VASTNESS OR WASTING;CONSTANCY;
      MEASURE;ETERNITY;UNITY;DIMINISHMENT;CLOSED MOUTH;GUARDEDNESS;GATHERING IN;MASSING;
      ACCUMULATION;EMBELLISHMENT;DOUBT;WATCH;SINKING;INNER;DEPARTURE;DARKENING;DIMMING;EXHAUSTION;
      SEVERANCE;STOPPAGE;HARDNESS;COMPLETION;CLOSURE;FAILURE;AGGRAVATION;COMPLIANCE;ON THE VERGE;
      DIFFICULTIES;LABOURING;FOSTERING"⟩, ⟨0x1D360, "COUNTING ROD UNIT DIGIT ", "ONE;TWO;THREE;FOUR;
      FIVE;SIX;SEVEN;EIGHT;NINE"⟩, ⟨0x1D369, "COUNTING ROD TENS DIGIT ", "ONE;TWO;THREE;FOUR;FIVE;
      SIX;SEVEN;EIGHT;NINE"⟩, ⟨0x1D372, "IDEOGRAPHIC TALLY MARK ", "ONE;TWO;THREE;FOUR;FIVE"⟩,
    ⟨0x1D377, "TALLY MARK ", "ONE;FIVE"⟩, ⟨0x1D400, "MATHEMATICAL BOLD CAPITAL ", "A;B;C;D;E;F;G;H;
      I;J;K;L;M;N;O;P;Q;R;S;T;U;V;W;X;Y;Z"⟩, ⟨0x1D41A, "MATHEMATICAL BOLD SMALL ", "A;B;C;D;E;F;G;H;
      I;J;K;L;M;N;O;P;Q;R;S;T;U;V;W;X;Y;Z"⟩, ⟨0x1D434, "MATHEMATICAL ITALIC CAPITAL ", "A;B;C;D;E;F;
      G;H;I;J;K;L;M;N;O;P;Q;R;S;T;U;V;W;X;Y;Z"⟩, ⟨0x1D44E, "MATHEMATICAL ITALIC SMALL ", "A;B;C;D;E;
      F;G"⟩, ⟨0x1D456, "MATHEMATICAL ITALIC SMALL ", "I;J;K;L;M;N;O;P;Q;R;S;T;U;V;W;X;Y;Z"⟩,
    ⟨0x1D468, "MATHEMATICAL BOLD ITALIC CAPITAL ", "A;B;C;D;E;F;G;H;I;J;K;L;M;N;O;P;Q;R;S;T;U;V;W;X;
      Y;Z"⟩, ⟨0x1D482, "MATHEMATICAL BOLD ITALIC SMALL ", "A;B;C;D;E;F;G;H;I;J;K;L;M;N;O;P;Q;R;S;T;
      U;V;W;X;Y;Z"⟩, ⟨0x1D49C, "", "MATHEMATICAL SCRIPT CAPITAL A"⟩,
    ⟨0x1D49E, "MATHEMATICAL SCRIPT CAPITAL ", "C;D"⟩,
    ⟨0x1D4A2, "", "MATHEMATICAL SCRIPT CAPITAL G"⟩, ⟨0x1D4A5, "MATHEMATICAL SCRIPT CAPITAL ", "J;
      K"⟩, ⟨0x1D4A9, "MATHEMATICAL SCRIPT CAPITAL ", "N;O;P;Q"⟩,
    ⟨0x1D4AE, "MATHEMATICAL SCRIPT CAPITAL ", "S;T;U;V;W;X;Y;Z"⟩,
    ⟨0x1D4B6, "MATHEMATICAL SCRIPT SMALL ", "A;B;C;D"⟩,
    ⟨0x1D4BB, "", "MATHEMATICAL SCRIPT SMALL F"⟩, ⟨0x1D4BD, "MATHEMATICAL SCRIPT SMALL ", "H;I;J;K;
      L;M;N"⟩, ⟨0x1D4C5, "MATHEMATICAL SCRIPT SMALL ", "P;Q;R;S;T;U;V;W;X;Y;Z"⟩,
    ⟨0x1D4D0, "MATHEMATICAL BOLD SCRIPT CAPITAL ", "A;B;C;D;E;F;G;H;I;J;K;L;M;N;O;P;Q;R;S;T;U;V;W;X;
      Y;Z"⟩, ⟨0x1D4EA, "MATHEMATICAL BOLD SCRIPT SMALL ", "A;B;C;D;E;F;G;H;I;J;K;L;M;N;O;P;Q;R;S;T;
      U;V;W;X;Y;Z"⟩, ⟨0x1D504, "MATHEMATICAL FRAKTUR CAPITAL ", "A;B"⟩,
    ⟨0x1D507, "MATHEMATICAL FRAKTUR CAPITAL ", "D;E;F;G"⟩,
    ⟨0x1D50D, "MATHEMATICAL FRAKTUR CAPITAL ", "J;K;L;M;N;O;P;Q"⟩,
    ⟨0x1D516, "MATHEMATICAL FRAKTUR CAPITAL ", "S;T;U;V;W;X;Y"⟩,
    ⟨0x1D51E, "MATHEMATICAL FRAKTUR SMALL ", "A;B;C;D;E;F;G;H;I;J;K;L;M;N;O;P;Q;R;S;T;U;V;W;X;Y;Z"⟩,
    ⟨0x1D538, "MATHEMATICAL DOUBLE-STRUCK CAPITAL ", "A;B"⟩,
    ⟨0x1D53B, "MATHEMATICAL DOUBLE-STRUCK CAPITAL ", "D;E;F;G"⟩,
    ⟨0x1D540, "MATHEMATICAL DOUBLE-STRUCK CAPITAL ", "I;J;K;L;M"⟩,
    ⟨0x1D546, "", "MATHEMATICAL DOUBLE-STRUCK CAPITAL O"⟩,
    ⟨0x1D54A, "MATHEMATICAL DOUBLE-STRUCK CAPITAL ", "S;T;U;V;W;X;Y"⟩,
    ⟨0x1D552, "MATHEMATICAL DOUBLE-STRUCK SMALL ", "A;B;C;D;E;F;G;H;I;J;K;L;M;N;O;P;Q;R;S;T;U;V;W;X;
      Y;Z"⟩, ⟨0x1D56C, "MATHEMATICAL BOLD FRAKTUR CAPITAL ", "A;B;C;D;E;F;G;H;I;J;K;L;M;N;O;P;Q;R;S;
      T;U;V;W;X;Y;Z"⟩, ⟨0x1D586, "MATHEMATICAL BOLD FRAKTUR SMALL ", "A;B;C;D;E;F;G;H;I;J;K;L;M;N;O;
      P;Q;R;S;T;U;V;W;X;Y;Z"⟩, ⟨0x1D5A0, "MATHEMATICAL SANS-SERIF CAPITAL ", "A;B;C;D;E;F;G;H;I;J;K;
      L;M;N;O;P;Q;R;S;T;U;V;W;X;Y;Z"⟩, ⟨0x1D5BA, "MATHEMATICAL SANS-SERIF SMALL ", "A;B;C;D;E;F;G;H;
      I;J;K;L;M;N;O;P;Q;R;S;T;U;V;W;X;Y;Z"⟩, ⟨0x1D5D4, "MATHEMATICAL SANS-SERIF BOLD CAPITAL ", "A;
      B;C;D;E;F;G;H;I;J;K;L;M;N;O;P;Q;R;S;T;U;V;W;X;Y;Z"⟩,
    ⟨0x1D5EE, "MATHEMATICAL SANS-SERIF BOLD SMALL ", "A;B;C;D;E;F;G;H;I;J;K;L;M;N;O;P;Q;R;S;T;U;V;W;
      X;Y;Z"⟩, ⟨0x1D608, "MATHEMATICAL SANS-SERIF ITALIC CAPITAL ", "A;B;C;D;E;F;G;H;I;J;K;L;M;N;O;
      P;Q;R;S;T;U;V;W;X;Y;Z"⟩, ⟨0x1D622, "MATHEMATICAL SANS-SERIF ITALIC SMALL ", "A;B;C;D;E;F;G;H;
      I;J;K;L;M;N;O;P;Q;R;S;T;U;V;W;X;Y;Z"⟩,
    ⟨0x1D63C, "MATHEMATICAL SANS-SERIF BOLD ITALIC CAPITAL ", "A;B;C;D;E;F;G;H;I;J;K;L;M;N;O;P;Q;R;
      S;T;U;V;W;X;Y;Z"⟩, ⟨0x1D656, "MATHEMATICAL SANS-SERIF BOLD ITALIC SMALL ", "A;B;C;D;E;F;G;H;I;
      J;K;L;M;N;O;P;Q;R;S;T;U;V;W;X;Y;Z"⟩, ⟨0x1D670, "MATHEMATICAL MONOSPACE CAPITAL ", "A;B;C;D;E;
      F;G;H;I;J;K;L;M;N;O;P;Q;R;S;T;U;V;W;X;Y;Z"⟩, ⟨0x1D68A, "MATHEMATICAL MONOSPACE SMALL ", "A;B;
      C;D;E;F;G;H;I;J;K;L;M;N;O;P;Q;R;S;T;U;V;W;X;Y;Z"⟩,
    ⟨0x1D6A4, "MATHEMATICAL ITALIC SMALL DOTLESS ", "I;J"⟩,
    ⟨0x1D6A8, "MATHEMATICAL BOLD CAPITAL ", "ALPHA;BETA;GAMMA;DELTA;EPSILON;ZETA;ETA;THETA;IOTA;
      KAPPA;LAMDA;MU;NU;XI;OMICRON;PI;RHO;THETA SYMBOL;SIGMA;TAU;UPSILON;PHI;CHI;PSI;OMEGA"⟩,
    ⟨0x1D6C1, "", "MATHEMATICAL BOLD NABLA"⟩, ⟨0x1D6C2, "MATHEMATICAL BOLD SMALL ", "ALPHA;BETA;
      GAMMA;DELTA;EPSILON;ZETA;ETA;THETA;IOTA;KAPPA;LAMDA;MU;NU;XI;OMICRON;PI;RHO;FINAL SIGMA;SIGMA;
      TAU;UPSILON;PHI;CHI;PSI;OMEGA"⟩, ⟨0x1D6DB, "MATHEMATICAL BOLD ", "PARTIAL DIFFERENTIAL;
      EPSILON SYMBOL;THETA SYMBOL;KAPPA SYMBOL;PHI SYMBOL;RHO SYMBOL;PI SYMBOL"⟩,
    ⟨0x1D6E2, "MATHEMATICAL ITALIC CAPITAL ", "ALPHA;BETA;GAMMA;DELTA;EPSILON;ZETA;ETA;THETA;IOTA;
      KAPPA;LAMDA;MU;NU;XI;OMICRON;PI;RHO;THETA SYMBOL;SIGMA;TAU;UPSILON;PHI;CHI;PSI;OMEGA"⟩,
    ⟨0x1D6FB, "", "MATHEMATICAL ITALIC NABLA"⟩, ⟨0x1D6FC, "MATHEMATICAL ITALIC SMALL ", "ALPHA;BETA;
      GAMMA;DELTA;EPSILON;ZETA;ETA;THETA;IOTA;KAPPA;LAMDA;MU;NU;XI;OMICRON;PI;RHO;FINAL SIGMA;SIGMA;
      TAU;UPSILON;PHI;CHI;PSI;OMEGA"⟩, ⟨0x1D715, "MATHEMATICAL ITALIC ", "PARTIAL DIFFERENTIAL;
      EPSILON SYMBOL;THETA SYMBOL;KAPPA SYMBOL;PHI SYMBOL;RHO SYMBOL;PI SYMBOL"⟩,
    ⟨0x1D71C, "MATHEMATICAL BOLD ITALIC CAPITAL ", "ALPHA;BETA;GAMMA;DELTA;EPSILON;ZETA;ETA;THETA;
      IOTA;KAPPA;LAMDA;MU;NU;XI;OMICRON;PI;RHO;THETA SYMBOL;SIGMA;TAU;UPSILON;PHI;CHI;PSI;OMEGA"⟩,
    ⟨0x1D735, "", "MATHEMATICAL BOLD ITALIC NABLA"⟩,
    ⟨0x1D736, "MATHEMATICAL BOLD ITALIC SMALL ", "ALPHA;BETA;GAMMA;DELTA;EPSILON;ZETA;ETA;THETA;
      IOTA;KAPPA;LAMDA;MU;NU;XI;OMICRON;PI;RHO;FINAL SIGMA;SIGMA;TAU;UPSILON;PHI;CHI;PSI;OMEGA"⟩,
    ⟨0x1D74F, "MATHEMATICAL BOLD ITALIC ", "PARTIAL DIFFERENTIAL;EPSILON SYMBOL;THETA SYMBOL;
      KAPPA SYMBOL;PHI SYMBOL;RHO SYMBOL;PI SYMBOL"⟩,
    ⟨0x1D756, "MATHEMATICAL SANS-SERIF BOLD CAPITAL ", "ALPHA;BETA;GAMMA;DELTA;EPSILON;ZETA;ETA;
      THETA;IOTA;KAPPA;LAMDA;MU;NU;XI;OMICRON;PI;RHO;THETA SYMBOL;SIGMA;TAU;UPSILON;PHI;CHI;PSI;
      OMEGA"⟩, ⟨0x1D76F, "", "MATHEMATICAL SANS-SERIF BOLD NABLA"⟩,
    ⟨0x1D770, "MATHEMATICAL SANS-SERIF BOLD SMALL ", "ALPHA;BETA;GAMMA;DELTA;EPSILON;ZETA;ETA;THETA;
      IOTA;KAPPA;LAMDA;MU;NU;XI;OMICRON;PI;RHO;FINAL SIGMA;SIGMA;TAU;UPSILON;PHI;CHI;PSI;OMEGA"⟩,
    ⟨0x1D789, "MATHEMATICAL SANS-SERIF BOLD ", "PARTIAL DIFFERENTIAL;EPSILON SYMBOL;THETA SYMBOL;
      KAPPA SYMBOL;PHI SYMBOL;RHO SYMBOL;PI SYMBOL"⟩,
    ⟨0x1D790, "MATHEMATICAL SANS-SERIF BOLD ITALIC CAPITAL ", "ALPHA;BETA;GAMMA;DELTA;EPSILON;ZETA;
      ETA;THETA;IOTA;KAPPA;LAMDA;MU;NU;XI;OMICRON;PI;RHO;THETA SYMBOL;SIGMA;TAU;UPSILON;PHI;CHI;PSI;
      OMEGA"⟩, ⟨0x1D7A9, "", "MATHEMATICAL SANS-SERIF BOLD ITALIC NABLA"⟩,
    ⟨0x1D7AA, "MATHEMATICAL SANS-SERIF BOLD ITALIC SMALL ", "ALPHA;BETA;GAMMA;DELTA;EPSILON;ZETA;
      ETA;THETA;IOTA;KAPPA;LAMDA;MU;NU;XI;OMICRON;PI;RHO;FINAL SIGMA;SIGMA;TAU;UPSILON;PHI;CHI;PSI;
      OMEGA"⟩, ⟨0x1D7C3, "MATHEMATICAL SANS-SERIF BOLD ITALIC ", "PARTIAL DIFFERENTIAL;
      EPSILON SYMBOL;THETA SYMBOL;KAPPA SYMBOL;PHI SYMBOL;RHO SYMBOL;PI SYMBOL"⟩,
    ⟨0x1D7CA, "MATHEMATICAL BOLD ", "CAPITAL DIGAMMA;SMALL DIGAMMA"⟩,
    ⟨0x1D7CE, "MATHEMATICAL BOLD DIGIT ", "ZERO;ONE;TWO;THREE;FOUR;FIVE;SIX;SEVEN;EIGHT;NINE"⟩,
    ⟨0x1D7D8, "MATHEMATICAL DOUBLE-STRUCK DIGIT ", "ZERO;ONE;TWO;THREE;FOUR;FIVE;SIX;SEVEN;EIGHT;
      NINE"⟩, ⟨0x1D7E2, "MATHEMATICAL SANS-SERIF DIGIT ", "ZERO;ONE;TWO;THREE;FOUR;FIVE;SIX;SEVEN;
      EIGHT;NINE"⟩, ⟨0x1D7EC, "MATHEMATICAL SANS-SERIF BOLD DIGIT ", "ZERO;ONE;TWO;THREE;FOUR;FIVE;
      SIX;SEVEN;EIGHT;NINE"⟩, ⟨0x1D7F6, "MATHEMATICAL MONOSPACE DIGIT ", "ZERO;ONE;TWO;THREE;FOUR;
      FIVE;SIX;SEVEN;EIGHT;NINE"⟩, ⟨0x1D800, "SIGNWRITING ", "HAND-FIST INDEX;HAND-CIRCLE INDEX;
      HAND-CUP INDEX;HAND-OVAL INDEX;HAND-HINGE INDEX;HAND-ANGLE INDEX;HAND-FIST INDEX BENT;
      HAND-CIRCLE INDEX BENT;HAND-FIST THUMB UNDER INDEX BENT;HAND-FIST INDEX RAISED KNUCKLE;
      HAND-FIST INDEX CUPPED;HAND-FIST INDEX HINGED;HAND-FIST INDEX HINGED LOW;
      HAND-CIRCLE INDEX HINGE;HAND-FIST INDEX MIDDLE;HAND-CIRCLE INDEX MIDDLE"⟩,
    ⟨0x1D810, "SIGNWRITING HAND-FIST INDEX ", "MIDDLE BENT;MIDDLE RAISED KNUCKLES;MIDDLE HINGED;
      UP MIDDLE HINGED;HINGED MIDDLE UP;MIDDLE CONJOINED;MIDDLE CONJOINED INDEX BENT;
      MIDDLE CONJOINED MIDDLE BENT;MIDDLE CONJOINED CUPPED;MIDDLE CONJOINED HINGED;MIDDLE CROSSED"⟩,
    ⟨0x1D81B, "SIGNWRITING ", "HAND-CIRCLE INDEX MIDDLE CROSSED;HAND-FIST MIDDLE BENT OVER INDEX;
      HAND-FIST INDEX BENT OVER MIDDLE;HAND-FIST INDEX MIDDLE THUMB;
      HAND-CIRCLE INDEX MIDDLE THUMB"⟩,
    ⟨0x1D820, "SIGNWRITING HAND-FIST INDEX ", "MIDDLE STRAIGHT THUMB BENT;
      MIDDLE BENT THUMB STRAIGHT;MIDDLE THUMB BENT;MIDDLE HINGED SPREAD THUMB SIDE;
      UP MIDDLE HINGED THUMB SIDE;UP MIDDLE HINGED THUMB CONJOINED;HINGED MIDDLE UP THUMB SIDE;
      MIDDLE UP SPREAD THUMB FORWARD;MIDDLE THUMB CUPPED;MIDDLE THUMB CIRCLED;MIDDLE THUMB HOOKED;
      MIDDLE THUMB HINGED"⟩,
    ⟨0x1D82C, "SIGNWRITING HAND-FIST ", "THUMB BETWEEN INDEX MIDDLE STRAIGHT;
      INDEX MIDDLE CONJOINED THUMB SIDE;INDEX MIDDLE CONJOINED THUMB SIDE CONJOINED;
      INDEX MIDDLE CONJOINED THUMB SIDE BENT;MIDDLE THUMB HOOKED INDEX UP;
      INDEX THUMB HOOKED MIDDLE UP;INDEX MIDDLE CONJOINED HINGED THUMB SIDE;
      INDEX MIDDLE CROSSED THUMB SIDE;INDEX MIDDLE CONJOINED THUMB FORWARD;
      INDEX MIDDLE CONJOINED CUPPED THUMB FORWARD;MIDDLE THUMB CUPPED INDEX UP;
      INDEX THUMB CUPPED MIDDLE UP;MIDDLE THUMB CIRCLED INDEX UP;MIDDLE THUMB CIRCLED INDEX HINGED;
      INDEX THUMB ANGLED OUT MIDDLE UP;INDEX THUMB ANGLED IN MIDDLE UP;
      INDEX THUMB CIRCLED MIDDLE UP;INDEX MIDDLE THUMB CONJOINED HINGED;
      INDEX MIDDLE THUMB ANGLED OUT;INDEX MIDDLE THUMB ANGLED;MIDDLE THUMB ANGLED OUT INDEX UP;
      MIDDLE THUMB ANGLED OUT INDEX CROSSED;MIDDLE THUMB ANGLED INDEX UP;
      INDEX THUMB HOOKED MIDDLE HINGED"⟩, ⟨0x1D844, "SIGNWRITING HAND-FLAT FOUR ", "FINGERS;
      FINGERS BENT;FINGERS HINGED;FINGERS CONJOINED;FINGERS CONJOINED SPLIT"⟩,
    ⟨0x1D849, "SIGNWRITING ", "HAND-CLAW FOUR FINGERS CONJOINED;
      HAND-FIST FOUR FINGERS CONJOINED BENT;HAND-HINGE FOUR FINGERS CONJOINED"⟩,
    ⟨0x1D84C, "SIGNWRITING HAND-FLAT ", "FIVE FINGERS SPREAD;HEEL FIVE FINGERS SPREAD;
      FIVE FINGERS SPREAD FOUR BENT;HEEL FIVE FINGERS SPREAD FOUR BENT;FIVE FINGERS SPREAD BENT;
      HEEL FIVE FINGERS SPREAD BENT;FIVE FINGERS SPREAD THUMB FORWARD"⟩,
    ⟨0x1D853, "SIGNWRITING ", "HAND-CUP FIVE FINGERS SPREAD;HAND-CUP FIVE FINGERS SPREAD OPEN;
      HAND-HINGE FIVE FINGERS SPREAD OPEN;HAND-OVAL FIVE FINGERS SPREAD"⟩,
    ⟨0x1D857, "SIGNWRITING HAND-FLAT FIVE FINGERS SPREAD ", "HINGED;HINGED THUMB SIDE;
      HINGED NO THUMB"⟩, ⟨0x1D85A, "", "SIGNWRITING HAND-FLAT"⟩,
    ⟨0x1D85B, "SIGNWRITING HAND-FLAT ", "BETWEEN PALM FACINGS;HEEL;THUMB SIDE;HEEL THUMB SIDE;
      THUMB BENT;THUMB FORWARD;SPLIT INDEX THUMB SIDE;SPLIT CENTRE;SPLIT CENTRE THUMB SIDE;
      SPLIT CENTRE THUMB SIDE BENT;SPLIT LITTLE"⟩, ⟨0x1D866, "SIGNWRITING ", "HAND-CLAW;
      HAND-CLAW THUMB SIDE;HAND-CLAW NO THUMB;HAND-CLAW THUMB FORWARD;HAND-HOOK CURLICUE;HAND-HOOK;
      HAND-CUP OPEN;HAND-CUP;HAND-CUP OPEN THUMB SIDE;HAND-CUP THUMB SIDE;HAND-CUP OPEN NO THUMB;
      HAND-CUP NO THUMB;HAND-CUP OPEN THUMB FORWARD;HAND-CUP THUMB FORWARD;HAND-CURLICUE OPEN;
      HAND-CURLICUE;HAND-CIRCLE;HAND-OVAL;HAND-OVAL THUMB SIDE;HAND-OVAL NO THUMB;
      HAND-OVAL THUMB FORWARD;HAND-HINGE OPEN;HAND-HINGE OPEN THUMB FORWARD;HAND-HINGE"⟩,
    ⟨0x1D87E, "SIGNWRITING HAND-HINGE ", "SMALL;OPEN THUMB SIDE;THUMB SIDE;OPEN NO THUMB;NO THUMB;
      THUMB SIDE TOUCHING INDEX;THUMB BETWEEN MIDDLE RING"⟩, ⟨0x1D885, "SIGNWRITING ", "HAND-ANGLE;
      HAND-FIST INDEX MIDDLE RING;HAND-CIRCLE INDEX MIDDLE RING;HAND-HINGE INDEX MIDDLE RING;
      HAND-ANGLE INDEX MIDDLE RING;HAND-HINGE LITTLE;HAND-FIST INDEX MIDDLE RING BENT;
      HAND-FIST INDEX MIDDLE RING CONJOINED;HAND-HINGE INDEX MIDDLE RING CONJOINED"⟩,
    ⟨0x1D88E, "SIGNWRITING HAND-FIST LITTLE ", "DOWN;DOWN RIPPLE STRAIGHT;DOWN RIPPLE CURVED;
      DOWN OTHERS CIRCLED;UP"⟩, ⟨0x1D893, "SIGNWRITING ", "HAND-FIST THUMB UNDER LITTLE UP;
      HAND-CIRCLE LITTLE UP;HAND-OVAL LITTLE UP;HAND-ANGLE LITTLE UP;
      HAND-FIST LITTLE RAISED KNUCKLE;HAND-FIST LITTLE BENT;HAND-FIST LITTLE TOUCHES THUMB;
      HAND-FIST LITTLE THUMB;HAND-HINGE LITTLE THUMB;HAND-FIST LITTLE INDEX THUMB;
      HAND-HINGE LITTLE INDEX THUMB;HAND-ANGLE LITTLE INDEX THUMB INDEX THUMB OUT;
      HAND-ANGLE LITTLE INDEX THUMB INDEX THUMB;HAND-FIST LITTLE INDEX;HAND-CIRCLE LITTLE INDEX;
      HAND-HINGE LITTLE INDEX;HAND-ANGLE LITTLE INDEX;HAND-FIST INDEX MIDDLE LITTLE;
      HAND-CIRCLE INDEX MIDDLE LITTLE;HAND-HINGE INDEX MIDDLE LITTLE;HAND-HINGE RING;
      HAND-ANGLE INDEX MIDDLE LITTLE;HAND-FIST INDEX MIDDLE CROSS LITTLE;
      HAND-CIRCLE INDEX MIDDLE CROSS LITTLE;HAND-FIST RING DOWN;
      HAND-HINGE RING DOWN INDEX THUMB HOOK MIDDLE;HAND-ANGLE RING DOWN MIDDLE THUMB INDEX CROSS;
      HAND-FIST RING UP;HAND-FIST RING RAISED KNUCKLE;HAND-FIST RING LITTLE;HAND-CIRCLE RING LITTLE;
      HAND-OVAL RING LITTLE;HAND-ANGLE RING LITTLE"⟩,
    ⟨0x1D8B4, "SIGNWRITING HAND-FIST RING ", "MIDDLE;MIDDLE CONJOINED;MIDDLE RAISED KNUCKLES;INDEX;
      THUMB"⟩, ⟨0x1D8B9, "SIGNWRITING ", "HAND-HOOK RING THUMB;HAND-FIST INDEX RING LITTLE;
      HAND-CIRCLE INDEX RING LITTLE;HAND-CURLICUE INDEX RING LITTLE ON;
      HAND-HOOK INDEX RING LITTLE OUT;HAND-HOOK INDEX RING LITTLE IN;
      HAND-HOOK INDEX RING LITTLE UNDER;HAND-CUP INDEX RING LITTLE;HAND-HINGE INDEX RING LITTLE;
      HAND-ANGLE INDEX RING LITTLE OUT;HAND-ANGLE INDEX RING LITTLE;HAND-FIST MIDDLE DOWN;
      HAND-HINGE MIDDLE;HAND-FIST MIDDLE UP;HAND-CIRCLE MIDDLE UP;HAND-FIST MIDDLE RAISED KNUCKLE;
      HAND-FIST MIDDLE UP THUMB SIDE;HAND-HOOK MIDDLE THUMB;HAND-FIST MIDDLE THUMB LITTLE;
      HAND-FIST MIDDLE LITTLE;HAND-FIST MIDDLE RING LITTLE;HAND-CIRCLE MIDDLE RING LITTLE;
      HAND-CURLICUE MIDDLE RING LITTLE ON;HAND-CUP MIDDLE RING LITTLE;HAND-HINGE MIDDLE RING LITTLE;
      HAND-ANGLE MIDDLE RING LITTLE OUT;HAND-ANGLE MIDDLE RING LITTLE IN;
      HAND-ANGLE MIDDLE RING LITTLE;HAND-CIRCLE MIDDLE RING LITTLE BENT;
      HAND-CLAW MIDDLE RING LITTLE CONJOINED;HAND-CLAW MIDDLE RING LITTLE CONJOINED SIDE;
      HAND-HOOK MIDDLE RING LITTLE CONJOINED OUT;HAND-HOOK MIDDLE RING LITTLE CONJOINED IN;
      HAND-HOOK MIDDLE RING LITTLE CONJOINED;HAND-HINGE INDEX HINGED;HAND-FIST INDEX THUMB SIDE;
      HAND-HINGE INDEX THUMB SIDE"⟩,
    ⟨0x1D8DE, "SIGNWRITING HAND-FIST INDEX THUMB ", "SIDE THUMB DIAGONAL;SIDE THUMB CONJOINED;
      SIDE THUMB BENT;SIDE INDEX BENT;SIDE BOTH BENT;SIDE INDEX HINGE;FORWARD INDEX STRAIGHT;
      FORWARD INDEX BENT;HOOK;CURLICUE;CURVE THUMB INSIDE"⟩,
    ⟨0x1D8E9, "SIGNWRITING ", "HAND-CLAW INDEX THUMB CURVE THUMB INSIDE;
      HAND-FIST INDEX THUMB CURVE THUMB UNDER;HAND-FIST INDEX THUMB CIRCLE;HAND-CUP INDEX THUMB;
      HAND-CUP INDEX THUMB OPEN;HAND-HINGE INDEX THUMB OPEN;HAND-HINGE INDEX THUMB LARGE;
      HAND-HINGE INDEX THUMB;HAND-HINGE INDEX THUMB SMALL;HAND-ANGLE INDEX THUMB OUT;
      HAND-ANGLE INDEX THUMB IN;HAND-ANGLE INDEX THUMB;HAND-FIST THUMB"⟩,
    ⟨0x1D8F6, "SIGNWRITING HAND-FIST THUMB ", "HEEL;SIDE DIAGONAL;SIDE CONJOINED;SIDE BENT;FORWARD;
      BETWEEN INDEX MIDDLE;BETWEEN MIDDLE RING;BETWEEN RING LITTLE;UNDER TWO FINGERS;
      OVER TWO FINGERS;UNDER THREE FINGERS;UNDER FOUR FINGERS;OVER FOUR RAISED KNUCKLES"⟩,
    ⟨0x1D903, "SIGNWRITING ", "HAND-FIST;HAND-FIST HEEL;TOUCH SINGLE;TOUCH MULTIPLE;TOUCH BETWEEN;
      GRASP SINGLE;GRASP MULTIPLE;GRASP BETWEEN;STRIKE SINGLE;STRIKE MULTIPLE;STRIKE BETWEEN;
      BRUSH SINGLE;BRUSH MULTIPLE;BRUSH BETWEEN;RUB SINGLE;RUB MULTIPLE;RUB BETWEEN;SURFACE SYMBOLS;
      SURFACE BETWEEN;SQUEEZE LARGE SINGLE;SQUEEZE SMALL SINGLE;SQUEEZE LARGE MULTIPLE;
      SQUEEZE SMALL MULTIPLE;SQUEEZE SEQUENTIAL;FLICK LARGE SINGLE;FLICK SMALL SINGLE;
      FLICK LARGE MULTIPLE;FLICK SMALL MULTIPLE;FLICK SEQUENTIAL;SQUEEZE FLICK ALTERNATING"⟩,
    ⟨0x1D921, "SIGNWRITING MOVEMENT-HINGE ", "UP DOWN LARGE;UP DOWN SMALL;UP SEQUENTIAL;
      DOWN SEQUENTIAL;UP DOWN ALTERNATING LARGE;UP DOWN ALTERNATING SMALL;SIDE TO SIDE SCISSORS"⟩,
    ⟨0x1D928, "SIGNWRITING ", "MOVEMENT-WALLPLANE FINGER CONTACT;
      MOVEMENT-FLOORPLANE FINGER CONTACT"⟩,
    ⟨0x1D92A, "SIGNWRITING MOVEMENT-WALLPLANE ", "SINGLE STRAIGHT SMALL;SINGLE STRAIGHT MEDIUM;
      SINGLE STRAIGHT LARGE;SINGLE STRAIGHT LARGEST;SINGLE WRIST FLEX;DOUBLE STRAIGHT;
      DOUBLE WRIST FLEX;DOUBLE ALTERNATING;DOUBLE ALTERNATING WRIST FLEX;CROSS;
      TRIPLE STRAIGHT MOVEMENT;TRIPLE WRIST FLEX;TRIPLE ALTERNATING;TRIPLE ALTERNATING WRIST FLEX;
      BEND SMALL;BEND MEDIUM;BEND LARGE;CORNER SMALL;CORNER MEDIUM;CORNER LARGE;CORNER ROTATION;
      CHECK SMALL;CHECK MEDIUM;CHECK LARGE;BOX SMALL;BOX MEDIUM;BOX LARGE;ZIGZAG SMALL;
      ZIGZAG MEDIUM;ZIGZAG LARGE;PEAKS SMALL;PEAKS MEDIUM;PEAKS LARGE"⟩,
    ⟨0x1D94B, "SIGNWRITING TRAVEL-WALLPLANE ", "ROTATION-WALLPLANE SINGLE;ROTATION-WALLPLANE DOUBLE;
      ROTATION-WALLPLANE ALTERNATING;ROTATION-FLOORPLANE SINGLE;ROTATION-FLOORPLANE DOUBLE;
      ROTATION-FLOORPLANE ALTERNATING;SHAKING;ARM SPIRAL SINGLE;ARM SPIRAL DOUBLE;
      ARM SPIRAL TRIPLE"⟩, ⟨0x1D955, "SIGNWRITING MOVEMENT-DIAGONAL ", "AWAY SMALL;AWAY MEDIUM;
      AWAY LARGE;AWAY LARGEST;TOWARDS SMALL;TOWARDS MEDIUM;TOWARDS LARGE;TOWARDS LARGEST"⟩,
    ⟨0x1D95D, "SIGNWRITING MOVEMENT-DIAGONAL BETWEEN ", "AWAY SMALL;AWAY MEDIUM;AWAY LARGE;
      AWAY LARGEST;TOWARDS SMALL;TOWARDS MEDIUM;TOWARDS LARGE;TOWARDS LARGEST"⟩,
    ⟨0x1D965, "SIGNWRITING MOVEMENT-FLOORPLANE ", "SINGLE STRAIGHT SMALL;SINGLE STRAIGHT MEDIUM;
      SINGLE STRAIGHT LARGE;SINGLE STRAIGHT LARGEST;SINGLE WRIST FLEX;DOUBLE STRAIGHT;
      DOUBLE WRIST FLEX;DOUBLE ALTERNATING;DOUBLE ALTERNATING WRIST FLEX;CROSS;
      TRIPLE STRAIGHT MOVEMENT;TRIPLE WRIST FLEX;TRIPLE ALTERNATING MOVEMENT;
      TRIPLE ALTERNATING WRIST FLEX;BEND;CORNER SMALL;CORNER MEDIUM;CORNER LARGE;CHECK;BOX SMALL;
      BOX MEDIUM;BOX LARGE;ZIGZAG SMALL;ZIGZAG MEDIUM;ZIGZAG LARGE;PEAKS SMALL;PEAKS MEDIUM;
      PEAKS LARGE"⟩, ⟨0x1D981, "SIGNWRITING TRAVEL-FLOORPLANE ", "ROTATION-FLOORPLANE SINGLE;
      ROTATION-FLOORPLANE DOUBLE;ROTATION-FLOORPLANE ALTERNATING;ROTATION-WALLPLANE SINGLE;
      ROTATION-WALLPLANE DOUBLE;ROTATION-WALLPLANE ALTERNATING;SHAKING"⟩,
    ⟨0x1D988, "SIGNWRITING MOVEMENT-WALLPLANE CURVE ", "QUARTER SMALL;QUARTER MEDIUM;QUARTER LARGE;
      QUARTER LARGEST;HALF-CIRCLE SMALL;HALF-CIRCLE MEDIUM;HALF-CIRCLE LARGE;HALF-CIRCLE LARGEST;
      THREE-QUARTER CIRCLE SMALL;THREE-QUARTER CIRCLE MEDIUM"⟩,
    ⟨0x1D992, "SIGNWRITING MOVEMENT-WALLPLANE ", "HUMP SMALL;HUMP MEDIUM;HUMP LARGE;LOOP SMALL;
      LOOP MEDIUM;LOOP LARGE;LOOP SMALL DOUBLE;WAVE CURVE DOUBLE SMALL;WAVE CURVE DOUBLE MEDIUM;
      WAVE CURVE DOUBLE LARGE;WAVE CURVE TRIPLE SMALL;WAVE CURVE TRIPLE MEDIUM;
      WAVE CURVE TRIPLE LARGE;CURVE THEN STRAIGHT;CURVED CROSS SMALL;CURVED CROSS MEDIUM"⟩,
    ⟨0x1D9A2, "SIGNWRITING ROTATION-WALLPLANE ", "SINGLE;DOUBLE;ALTERNATE"⟩,
    ⟨0x1D9A5, "SIGNWRITING MOVEMENT-WALLPLANE ", "SHAKING;CURVE HITTING FRONT WALL;
      HUMP HITTING FRONT WALL;LOOP HITTING FRONT WALL;WAVE HITTING FRONT WALL"⟩,
    ⟨0x1D9AA, "SIGNWRITING ROTATION-WALLPLANE ", "SINGLE HITTING FRONT WALL;
      DOUBLE HITTING FRONT WALL;ALTERNATING HITTING FRONT WALL"⟩,
    ⟨0x1D9AD, "SIGNWRITING MOVEMENT-WALLPLANE ", "CURVE HITTING CHEST;HUMP HITTING CHEST;
      LOOP HITTING CHEST;WAVE HITTING CHEST"⟩,
    ⟨0x1D9B1, "SIGNWRITING ROTATION-WALLPLANE ", "SINGLE HITTING CHEST;DOUBLE HITTING CHEST;
      ALTERNATING HITTING CHEST"⟩,
    ⟨0x1D9B4, "SIGNWRITING MOVEMENT-WALLPLANE WAVE DIAGONAL PATH ", "SMALL;MEDIUM;LARGE"⟩,
    ⟨0x1D9B7, "SIGNWRITING MOVEMENT-FLOORPLANE CURVE HITTING CEILING ", "SMALL;LARGE"⟩,
    ⟨0x1D9B9, "SIGNWRITING MOVEMENT-FLOORPLANE HUMP HITTING CEILING ", "SMALL DOUBLE;LARGE DOUBLE;
      SMALL TRIPLE;LARGE TRIPLE"⟩,
    ⟨0x1D9BD, "SIGNWRITING MOVEMENT-FLOORPLANE LOOP HITTING CEILING ", "SMALL SINGLE;LARGE SINGLE;
      SMALL DOUBLE;LARGE DOUBLE"⟩,
    ⟨0x1D9C1, "SIGNWRITING MOVEMENT-FLOORPLANE WAVE HITTING CEILING ", "SMALL;LARGE"⟩,
    ⟨0x1D9C3, "SIGNWRITING ROTATION-FLOORPLANE ", "SINGLE HITTING CEILING;DOUBLE HITTING CEILING;
      ALTERNATING HITTING CEILING"⟩,
    ⟨0x1D9C6, "SIGNWRITING MOVEMENT-FLOORPLANE CURVE HITTING FLOOR ", "SMALL;LARGE"⟩,
    ⟨0x1D9C8, "SIGNWRITING MOVEMENT-FLOORPLANE HUMP HITTING FLOOR ", "SMALL DOUBLE;LARGE DOUBLE;
      TRIPLE SMALL TRIPLE;TRIPLE LARGE TRIPLE"⟩,
    ⟨0x1D9CC, "SIGNWRITING MOVEMENT-FLOORPLANE LOOP HITTING FLOOR ", "SMALL SINGLE;LARGE SINGLE;
      SMALL DOUBLE;LARGE DOUBLE"⟩,
    ⟨0x1D9D0, "SIGNWRITING MOVEMENT-FLOORPLANE WAVE HITTING FLOOR ", "SMALL;LARGE"⟩,
    ⟨0x1D9D2, "SIGNWRITING ROTATION-FLOORPLANE ", "SINGLE HITTING FLOOR;DOUBLE HITTING FLOOR;
      ALTERNATING HITTING FLOOR"⟩, ⟨0x1D9D5, "SIGNWRITING MOVEMENT-FLOORPLANE ", "CURVE SMALL;
      CURVE MEDIUM;CURVE LARGE;CURVE LARGEST;CURVE COMBINED;HUMP SMALL;LOOP SMALL;WAVE SNAKE;
      WAVE SMALL;WAVE LARGE"⟩, ⟨0x1D9DF, "SIGNWRITING ROTATION-FLOORPLANE ", "SINGLE;DOUBLE;
      ALTERNATING"⟩, ⟨0x1D9E2, "", "SIGNWRITING MOVEMENT-FLOORPLANE SHAKING PARALLEL"⟩,
    ⟨0x1D9E3, "SIGNWRITING MOVEMENT-WALLPLANE ARM CIRCLE ", "SMALL SINGLE;MEDIUM SINGLE;
      SMALL DOUBLE;MEDIUM DOUBLE"⟩,
    ⟨0x1D9E7, "SIGNWRITING MOVEMENT-FLOORPLANE ARM CIRCLE HITTING WALL ", "SMALL SINGLE;
      MEDIUM SINGLE;LARGE SINGLE;SMALL DOUBLE;MEDIUM DOUBLE;LARGE DOUBLE"⟩,
    ⟨0x1D9ED, "SIGNWRITING MOVEMENT-WALLPLANE WRIST CIRCLE FRONT ", "SINGLE;DOUBLE"⟩,
    ⟨0x1D9EF, "SIGNWRITING MOVEMENT-FLOORPLANE WRIST CIRCLE HITTING WALL ", "SINGLE;DOUBLE"⟩,
    ⟨0x1D9F1, "SIGNWRITING MOVEMENT-WALLPLANE FINGER CIRCLES ", "SINGLE;DOUBLE"⟩,
    ⟨0x1D9F3, "SIGNWRITING MOVEMENT-FLOORPLANE FINGER CIRCLES HITTING WALL ", "SINGLE;DOUBLE"⟩,
    ⟨0x1D9F5, "SIGNWRITING DYNAMIC ", "ARROWHEAD SMALL;ARROWHEAD LARGE;FAST;SLOW;TENSE;RELAXED;
      SIMULTANEOUS;SIMULTANEOUS ALTERNATING;EVERY OTHER TIME;GRADUAL"⟩,
    ⟨0x1D9FF, "", "SIGNWRITING HEAD"⟩, ⟨0x1DA00, "SIGNWRITING HEAD ", "RIM;
      MOVEMENT-WALLPLANE STRAIGHT;MOVEMENT-WALLPLANE TILT;MOVEMENT-FLOORPLANE STRAIGHT;
      MOVEMENT-WALLPLANE CURVE;MOVEMENT-FLOORPLANE CURVE;MOVEMENT CIRCLE"⟩,
    ⟨0x1DA07, "SIGNWRITING FACE DIRECTION POSITION NOSE ", "FORWARD TILTING;UP OR DOWN;
      UP OR DOWN TILTING"⟩, ⟨0x1DA0A, "SIGNWRITING EYEBROWS STRAIGHT ", "UP;NEUTRAL;DOWN"⟩,
    ⟨0x1DA0D, "SIGNWRITING DREAMY EYEBROWS ", "NEUTRAL DOWN;DOWN NEUTRAL;UP NEUTRAL;NEUTRAL UP"⟩,
    ⟨0x1DA11, "SIGNWRITING ", "FOREHEAD NEUTRAL;FOREHEAD CONTACT;FOREHEAD WRINKLED;EYES OPEN;
      EYES SQUEEZED;EYES CLOSED;EYE BLINK SINGLE;EYE BLINK MULTIPLE;EYES HALF OPEN;EYES WIDE OPEN;
      EYES HALF CLOSED;EYES WIDENING MOVEMENT;EYE WINK;EYELASHES UP;EYELASHES DOWN;
      EYELASHES FLUTTERING;EYEGAZE-WALLPLANE STRAIGHT;EYEGAZE-WALLPLANE STRAIGHT DOUBLE;
      EYEGAZE-WALLPLANE STRAIGHT ALTERNATING;EYEGAZE-FLOORPLANE STRAIGHT;
      EYEGAZE-FLOORPLANE STRAIGHT DOUBLE;EYEGAZE-FLOORPLANE STRAIGHT ALTERNATING;
      EYEGAZE-WALLPLANE CURVED;EYEGAZE-FLOORPLANE CURVED;EYEGAZE-WALLPLANE CIRCLING;CHEEKS PUFFED;
      CHEEKS NEUTRAL;CHEEKS SUCKED;TENSE CHEEKS HIGH;TENSE CHEEKS MIDDLE;TENSE CHEEKS LOW;EARS;
      NOSE NEUTRAL;NOSE CONTACT;NOSE WRINKLES;NOSE WIGGLES;AIR BLOWING OUT;AIR SUCKING IN;
      AIR BLOW SMALL ROTATIONS;AIR SUCK SMALL ROTATIONS;BREATH INHALE;BREATH EXHALE"⟩,
    ⟨0x1DA3B, "SIGNWRITING MOUTH ", "CLOSED NEUTRAL;CLOSED FORWARD;CLOSED CONTACT;SMILE;
      SMILE WRINKLED;SMILE OPEN;FROWN;FROWN WRINKLED;FROWN OPEN;OPEN CIRCLE;OPEN FORWARD;
      OPEN WRINKLED;OPEN OVAL;OPEN OVAL WRINKLED;OPEN OVAL YAWN;OPEN RECTANGLE;
      OPEN RECTANGLE WRINKLED;OPEN RECTANGLE YAWN;KISS;KISS FORWARD;KISS WRINKLED;TENSE;
      TENSE FORWARD;TENSE SUCKED"⟩, ⟨0x1DA53, "SIGNWRITING ", "LIPS PRESSED TOGETHER;
      LIP LOWER OVER UPPER;LIP UPPER OVER LOWER;MOUTH CORNERS;MOUTH WRINKLES SINGLE;
      MOUTH WRINKLES DOUBLE;TONGUE STICKING OUT FAR;TONGUE LICKING LIPS;TONGUE TIP BETWEEN LIPS;
      TONGUE TIP TOUCHING INSIDE MOUTH;TONGUE INSIDE MOUTH RELAXED;TONGUE MOVES AGAINST CHEEK;
      TONGUE CENTRE STICKING OUT;TONGUE CENTRE INSIDE MOUTH;TEETH;TEETH MOVEMENT;TEETH ON TONGUE;
      TEETH ON TONGUE MOVEMENT;TEETH ON LIPS;TEETH ON LIPS MOVEMENT;TEETH BITE LIPS;
      MOVEMENT-WALLPLANE JAW;MOVEMENT-FLOORPLANE JAW;NECK;HAIR;EXCITEMENT;SHOULDER HIP SPINE;
      SHOULDER HIP POSITIONS;WALLPLANE SHOULDER HIP MOVE;FLOORPLANE SHOULDER HIP MOVE;
      SHOULDER TILTING FROM WAIST;TORSO-WALLPLANE STRAIGHT STRETCH;TORSO-WALLPLANE CURVED BEND;
      TORSO-FLOORPLANE TWISTING;UPPER BODY TILTING FROM HIP JOINTS;LIMB COMBINATION;LIMB LENGTH-1;
      LIMB LENGTH-2;LIMB LENGTH-3;LIMB LENGTH-4;LIMB LENGTH-5;LIMB LENGTH-6;LIMB LENGTH-7;FINGER;
      LOCATION-WALLPLANE SPACE;LOCATION-FLOORPLANE SPACE;LOCATION HEIGHT;LOCATION WIDTH;
      LOCATION DEPTH;LOCATION HEAD NECK;LOCATION TORSO;LOCATION LIMBS DIGITS;COMMA;FULL STOP;
      SEMICOLON;COLON;PARENTHESIS"⟩, ⟨0x1DA9B, "SIGNWRITING FILL ", "MODIFIER-2;MODIFIER-3;
      MODIFIER-4;MODIFIER-5;MODIFIER-6"⟩, ⟨0x1DAA1, "SIGNWRITING ROTATION ", "MODIFIER-2;MODIFIER-3;
      MODIFIER-4;MODIFIER-5;MODIFIER-6;MODIFIER-7;MODIFIER-8;MODIFIER-9;MODIFIER-10;MODIFIER-11;
      MODIFIER-12;MODIFIER-13;MODIFIER-14;MODIFIER-15;MODIFIER-16"⟩,
    ⟨0x1DF00, "LATIN ", "SMALL LETTER FENG DIGRAPH WITH TRILL;SMALL LETTER REVERSED SCRIPT G;
      LETTER SMALL CAPITAL TURNED G;SMALL LETTER REVERSED K;LETTER SMALL CAPITAL L WITH BELT"⟩,
    ⟨0x1DF05, "LATIN SMALL LETTER ", "LEZH WITH RETROFLEX HOOK;TURNED Y WITH BELT;REVERSED ENG;
      TURNED R WITH LONG LEG AND RETROFLEX HOOK;T WITH HOOK AND RETROFLEX HOOK"⟩,
    ⟨0x1DF0A, "LATIN ", "LETTER RETROFLEX CLICK WITH RETROFLEX HOOK;
      SMALL LETTER ESH WITH DOUBLE BAR;SMALL LETTER ESH WITH DOUBLE BAR AND CURL;
      SMALL LETTER TURNED T WITH CURL;LETTER INVERTED GLOTTAL STOP WITH CURL;
      LETTER STRETCHED C WITH CURL;LETTER SMALL CAPITAL TURNED K"⟩,
    ⟨0x1DF11, "LATIN SMALL LETTER ", "L WITH FISHHOOK;DEZH DIGRAPH WITH PALATAL HOOK;
      L WITH BELT AND PALATAL HOOK;ENG WITH PALATAL HOOK;TURNED R WITH PALATAL HOOK;
      R WITH FISHHOOK AND PALATAL HOOK;TESH DIGRAPH WITH PALATAL HOOK;EZH WITH PALATAL HOOK;
      DEZH DIGRAPH WITH RETROFLEX HOOK;I WITH STROKE AND RETROFLEX HOOK;O WITH RETROFLEX HOOK;
      TESH DIGRAPH WITH RETROFLEX HOOK;C WITH RETROFLEX HOOK;S WITH CURL"⟩,
    ⟨0x1E000, "COMBINING GLAGOLITIC LETTER ", "AZU;BUKY;VEDE;GLAGOLI;DOBRO;YESTU;ZHIVETE"⟩,
    ⟨0x1E008, "COMBINING GLAGOLITIC LETTER ", "ZEMLJA;IZHE;INITIAL IZHE;I;DJERVI;KAKO;LJUDIJE;
      MYSLITE;NASHI;ONU;POKOJI;RITSI;SLOVO;TVRIDO;UKU;FRITU;HERU"⟩,
    ⟨0x1E01B, "COMBINING GLAGOLITIC LETTER ", "SHTA;TSI;CHRIVI;SHA;YERU;YERI;YATI"⟩,
    ⟨0x1E023, "COMBINING GLAGOLITIC LETTER ", "YU;SMALL YUS"⟩,
    ⟨0x1E026, "COMBINING GLAGOLITIC LETTER ", "YO;IOTATED SMALL YUS;BIG YUS;IOTATED BIG YUS;FITA"⟩,
    ⟨0x1E100, "NYIAKENG PUACHUE HMONG LETTER ", "MA;TSA;NTA;TA;HA;NA;XA;NKA;CA;LA;SA;ZA;NCA;NTSA;KA;
      DA;NYA;NRA;VA;NTXA;TXA;FA;RA;QA;YA;NQA;PA;XYA;NPA;DLA;NPLA;HAH;MLA;PLA;GA;RRA;A;AA;I;U;O;OO;E;
      EE;W"⟩, ⟨0x1E130, "NYIAKENG PUACHUE HMONG ", "TONE-B;TONE-M;TONE-J;TONE-V;TONE-S;TONE-G;
      TONE-D;SIGN FOR PERSON;SIGN FOR THING;SIGN FOR LOCATION;SIGN FOR ANIMAL;SIGN FOR INVERTEBRATE;
      SIGN XW XW;SYLLABLE LENGTHENER"⟩, ⟨0x1E140, "NYIAKENG PUACHUE HMONG DIGIT ", "ZERO;ONE;TWO;
      THREE;FOUR;FIVE;SIX;SEVEN;EIGHT;NINE"⟩, ⟨0x1E14E, "NYIAKENG PUACHUE HMONG ", "LOGOGRAM NYAJ;
      CIRCLED CA"⟩, ⟨0x1E290, "TOTO LETTER ", "PA;BA;TA;DA;KA;GA;MA;NA;NGA;SA;CHA;YA;WA;JA;HA;RA;LA;
      I;BREATHY I;IU;BREATHY IU;U;E;BREATHY E;EO;BREATHY EO;O;AE;BREATHY AE;A"⟩,
    ⟨0x1E2AE, "", "TOTO SIGN RISING TONE"⟩, ⟨0x1E2C0, "WANCHO LETTER ", "AA;A;BA;CA;DA;GA;YA;PHA;LA;
      NA;PA;TA;THA;FA;SA;SHA;JA;ZA;WA;VA;KA;O;AU;RA;MA;KHA;HA;E;I;NGA;U;LLHA;TSA;TRA;ONG;AANG;ANG;
      ING;ON;EN;AAN;NYA;UEN;YIH"⟩, ⟨0x1E2EC, "WANCHO TONE ", "TUP;TUPNI;KOI;KOINI"⟩,
    ⟨0x1E2F0, "WANCHO DIGIT ", "ZERO;ONE;TWO;THREE;FOUR;FIVE;SIX;SEVEN;EIGHT;NINE"⟩,
    ⟨0x1E2FF, "", "WANCHO NGUN SIGN"⟩, ⟨0x1E7E0, "ETHIOPIC SYLLABLE ", "HHYA;HHYU;HHYI;HHYAA;HHYEE;
      HHYE;HHYO"⟩, ⟨0x1E7E8, "ETHIOPIC SYLLABLE ", "GURAGE HHWA;HHWI;HHWEE;HHWE"⟩,
    ⟨0x1E7ED, "ETHIOPIC SYLLABLE GURAGE ", "MWI;MWEE"⟩, ⟨0x1E7F0, "ETHIOPIC SYLLABLE GURAGE ", "QWI;
      QWEE;QWE;BWI;BWEE;KWI;KWEE;KWE;GWI;GWEE;GWE;FWI;FWEE;PWI;PWEE"⟩,
    ⟨0x1E800, "MENDE KIKAKUI SYLLABLE ", "M001 KI;M002 KA;M003 KU;M065 KEE;M095 KE;M076 KOO;M048 KO;
      M179 KUA;M004 WI;M005 WA;M006 WU;M126 WEE;M118 WE;M114 WOO;M045 WO;M194 WUI;M143 WEI;M061 WVI;
      M049 WVA;M139 WVE;M007 MIN;M008 MAN;M009 MUN;M059 MEN;M094 MON;M154 MUAN;M189 MUEN;M010 BI;
      M011 BA;M012 BU;M150 BEE;M097 BE;M103 BOO;M138 BO;M013 I;M014 A;M015 U;M163 EE;M100 E;M165 OO;
      M147 O;M137 EI;M131 IN;M135 IN;M195 AN;M178 EN;M019 SI;M020 SA;M021 SU;M162 SEE;M116 SE;
      M136 SOO;M079 SO;M196 SIA;M025 LI;M026 LA;M027 LU;M084 LEE;M073 LE;M054 LOO;M153 LO;
      M110 LONG LE;M016 DI;M017 DA;M018 DU;M089 DEE;M180 DOO;M181 DO;M022 TI;M023 TA;M024 TU;
      M091 TEE;M055 TE;M104 TOO;M069 TO;M028 JI;M029 JA;M030 JU;M157 JEE;M113 JE;M160 JOO;M063 JO;
      M175 LONG JO;M031 YI;M032 YA;M033 YU;M109 YEE;M080 YE;M141 YOO;M121 YO;M034 FI;M035 FA;
      M036 FU;M078 FEE;M075 FE;M133 FOO;M088 FO;M197 FUA;M101 FAN;M037 NIN;M038 NAN;M039 NUN;
      M117 NEN;M169 NON;M176 HI;M041 HA;M186 HU;M040 HEE;M096 HE;M042 HOO;M140 HO;M083 HEEI;
      M128 HOOU;M053 HIN;M130 HAN;M087 HUN;M052 HEN;M193 HON;M046 HUAN;M090 NGGI;M043 NGGA;
      M082 NGGU;M115 NGGEE;M146 NGGE;M156 NGGOO;M120 NGGO;M159 NGGAA;M127 NGGUA;M086 LONG NGGE;
      M106 LONG NGGOO;M183 LONG NGGO;M155 GI;M111 GA;M168 GU;M190 GEE;M166 GUEI;M167 GUAN;M184 NGEN;
      M057 NGON;M177 NGUAN;M068 PI;M099 PA;M050 PU;M081 PEE;M051 PE;M102 POO;M066 PO;M145 MBI;
      M062 MBA;M122 MBU;M047 MBEE;M188 MBEE;M072 MBE;M172 MBOO;M174 MBO;M187 MBUU;M161 LONG MBE;
      M105 LONG MBOO;M142 LONG MBO;M132 KPI;M092 KPA;M074 KPU;M044 KPEE;M108 KPE;M112 KPOO;M158 KPO;
      M124 GBI;M056 GBA;M148 GBU;M093 GBEE;M107 GBE;M071 GBOO;M070 GBO;M171 RA;M123 NDI;M129 NDA;
      M125 NDU;M191 NDEE;M119 NDE;M067 NDOO;M064 NDO;M152 NJA;M192 NJU;M149 NJEE;M134 NJOO;M182 VI;
      M185 VA;M151 VU;M173 VEE;M085 VE;M144 VOO;M077 VO;M164 NYIN;M058 NYAN;M170 NYUN;M098 NYEN;
      M060 NYON"⟩, ⟨0x1E8C7, "MENDE KIKAKUI DIGIT ", "ONE;TWO;THREE;FOUR;FIVE;SIX;SEVEN;EIGHT;
      NINE"⟩, ⟨0x1E8D0, "MENDE KIKAKUI COMBINING NUMBER ", "TEENS;TENS;HUNDREDS;THOUSANDS;
      TEN THOUSANDS;HUNDRED THOUSANDS;MILLIONS"⟩, ⟨0x1E900, "ADLAM CAPITAL LETTER ", "ALIF;DAALI;
      LAAM;MIIM;BA;SINNYIIYHE;PE;BHE;RA;E;FA;I;O;DHA;YHE;WAW;NUN;KAF;YA;U;JIIM;CHI;HA;QAAF;GA;NYA;
      TU;NHA;VA;KHA;GBE;ZAL;KPO;SHA"⟩, ⟨0x1E922, "ADLAM SMALL LETTER ", "ALIF;DAALI;LAAM;MIIM;BA;
      SINNYIIYHE;PE;BHE;RA;E;FA;I;O;DHA;YHE;WAW;NUN;KAF;YA;U;JIIM;CHI;HA;QAAF;GA;NYA;TU;NHA;VA;KHA;
      GBE;ZAL;KPO;SHA"⟩, ⟨0x1E944, "ADLAM ", "ALIF LENGTHENER;VOWEL LENGTHENER;GEMINATION MARK;
      HAMZA;CONSONANT MODIFIER;GEMINATE CONSONANT MODIFIER;NUKTA;NASALIZATION MARK"⟩,
    ⟨0x1E950, "ADLAM DIGIT ", "ZERO;ONE;TWO;THREE;FOUR;FIVE;SIX;SEVEN;EIGHT;NINE"⟩,
    ⟨0x1E95E, "ADLAM INITIAL ", "EXCLAMATION MARK;QUESTION MARK"⟩,
    ⟨0x1EC71, "INDIC SIYAQ NUMBER ", "ONE;TWO;THREE;FOUR;FIVE;SIX;SEVEN;EIGHT;NINE;TEN;TWENTY;
      THIRTY;FORTY;FIFTY;SIXTY;SEVENTY;EIGHTY;NINETY;ONE HUNDRED;TWO HUNDRED;THREE HUNDRED;
      FOUR HUNDRED;FIVE HUNDRED;SIX HUNDRED;SEVEN HUNDRED;EIGHT HUNDRED;NINE HUNDRED;ONE THOUSAND;
      TWO THOUSAND;THREE THOUSAND;FOUR THOUSAND;FIVE THOUSAND;SIX THOUSAND;SEVEN THOUSAND;
      EIGHT THOUSAND;NINE THOUSAND;TEN THOUSAND;TWENTY THOUSAND;THIRTY THOUSAND;FORTY THOUSAND;
      FIFTY THOUSAND;SIXTY THOUSAND;SEVENTY THOUSAND;EIGHTY THOUSAND;NINETY THOUSAND;LAKH;LAKHAN"⟩,
    ⟨0x1ECA0, "INDIC SIYAQ ", "LAKH MARK;NUMBER KAROR;NUMBER KARORAN"⟩,
    ⟨0x1ECA3, "INDIC SIYAQ NUMBER PREFIXED ", "ONE;TWO;THREE;FOUR;FIVE;SIX;SEVEN;EIGHT;NINE"⟩,
    ⟨0x1ECAC, "INDIC SIYAQ ", "PLACEHOLDER;FRACTION ONE QUARTER;FRACTION ONE HALF;
      FRACTION THREE QUARTERS;RUPEE MARK;NUMBER ALTERNATE ONE;NUMBER ALTERNATE TWO;
      NUMBER ALTERNATE TEN THOUSAND;ALTERNATE LAKH MARK"⟩, ⟨0x1ED01, "OTTOMAN SIYAQ NUMBER ", "ONE;
      TWO;THREE;FOUR;FIVE;SIX;SEVEN;EIGHT;NINE;TEN;TWENTY;THIRTY;FORTY;FIFTY;SIXTY;SEVENTY;EIGHTY;
      NINETY;ONE HUNDRED;TWO HUNDRED;THREE HUNDRED;FOUR HUNDRED;FIVE HUNDRED;SIX HUNDRED;
      SEVEN HUNDRED;EIGHT HUNDRED;NINE HUNDRED;ONE THOUSAND;TWO THOUSAND;THREE THOUSAND;
      FOUR THOUSAND;FIVE THOUSAND;SIX THOUSAND;SEVEN THOUSAND;EIGHT THOUSAND;NINE THOUSAND;
      TEN THOUSAND;TWENTY THOUSAND;THIRTY THOUSAND;FORTY THOUSAND;FIFTY THOUSAND;SIXTY THOUSAND;
      SEVENTY THOUSAND;EIGHTY THOUSAND;NINETY THOUSAND"⟩, ⟨0x1ED2E, "", "OTTOMAN SIYAQ MARRATAN"⟩,
    ⟨0x1ED2F, "OTTOMAN SIYAQ ALTERNATE NUMBER ", "TWO;THREE;FOUR;FIVE;SIX;SEVEN;EIGHT;NINE;TEN;
      FOUR HUNDRED;SIX HUNDRED;TWO THOUSAND;TEN THOUSAND"⟩,
    ⟨0x1ED3C, "OTTOMAN SIYAQ FRACTION ONE ", "HALF;SIXTH"⟩, ⟨0x1EE00, "ARABIC MATHEMATICAL ", "ALEF;
      BEH;JEEM;DAL"⟩, ⟨0x1EE05, "ARABIC MATHEMATICAL ", "WAW;ZAIN;HAH;TAH;YEH;KAF;LAM;MEEM;NOON;
      SEEN;AIN;FEH;SAD;QAF;REH;SHEEN;TEH;THEH;KHAH;THAL;DAD;ZAH;GHAIN;DOTLESS BEH;DOTLESS NOON;
      DOTLESS FEH;DOTLESS QAF"⟩, ⟨0x1EE21, "ARABIC MATHEMATICAL INITIAL ", "BEH;JEEM"⟩,
    ⟨0x1EE24, "", "ARABIC MATHEMATICAL INITIAL HEH"⟩,
    ⟨0x1EE27, "", "ARABIC MATHEMATICAL INITIAL HAH"⟩,
    ⟨0x1EE29, "ARABIC MATHEMATICAL INITIAL ", "YEH;KAF;LAM;MEEM;NOON;SEEN;AIN;FEH;SAD;QAF"⟩,
    ⟨0x1EE34, "ARABIC MATHEMATICAL INITIAL ", "SHEEN;TEH;THEH;KHAH"⟩,
    ⟨0x1EE39, "", "ARABIC MATHEMATICAL INITIAL DAD"⟩,
    ⟨0x1EE3B, "", "ARABIC MATHEMATICAL INITIAL GHAIN"⟩,
    ⟨0x1EE42, "", "ARABIC MATHEMATICAL TAILED JEEM"⟩,
    ⟨0x1EE47, "", "ARABIC MATHEMATICAL TAILED HAH"⟩,
    ⟨0x1EE49, "", "ARABIC MATHEMATICAL TAILED YEH"⟩,
    ⟨0x1EE4B, "", "ARABIC MATHEMATICAL TAILED LAM"⟩, ⟨0x1EE4D, "ARABIC MATHEMATICAL TAILED ", "NOON;
      SEEN;AIN"⟩, ⟨0x1EE51, "ARABIC MATHEMATICAL TAILED ", "SAD;QAF"⟩,
    ⟨0x1EE54, "", "ARABIC MATHEMATICAL TAILED SHEEN"⟩,
    ⟨0x1EE57, "", "ARABIC MATHEMATICAL TAILED KHAH"⟩,
    ⟨0x1EE59, "", "ARABIC MATHEMATICAL TAILED DAD"⟩,
    ⟨0x1EE5B, "", "ARABIC MATHEMATICAL TAILED GHAIN"⟩,
    ⟨0x1EE5D, "", "ARABIC MATHEMATICAL TAILED DOTLESS NOON"⟩,
    ⟨0x1EE5F, "", "ARABIC MATHEMATICAL TAILED DOTLESS QAF"⟩,
    ⟨0x1EE61, "ARABIC MATHEMATICAL STRETCHED ", "BEH;JEEM"⟩,
    ⟨0x1EE64, "", "ARABIC MATHEMATICAL STRETCHED HEH"⟩,
    ⟨0x1EE67, "ARABIC MATHEMATICAL STRETCHED ", "HAH;TAH;YEH;KAF"⟩,
    ⟨0x1EE6C, "ARABIC MATHEMATICAL STRETCHED ", "MEEM;NOON;SEEN;AIN;FEH;SAD;QAF"⟩,
    ⟨0x1EE74, "ARABIC MATHEMATICAL STRETCHED ", "SHEEN;TEH;THEH;KHAH"⟩,
    ⟨0x1EE79, "ARABIC MATHEMATICAL STRETCHED ", "DAD;ZAH;GHAIN;DOTLESS BEH"⟩,
    ⟨0x1EE7E, "", "ARABIC MATHEMATICAL STRETCHED DOTLESS FEH"⟩,
    ⟨0x1EE80, "ARABIC MATHEMATICAL LOOPED ", "ALEF;BEH;JEEM;DAL;HEH;WAW;ZAIN;HAH;TAH;YEH"⟩,
    ⟨0x1EE8B, "ARABIC MATHEMATICAL LOOPED ", "LAM;MEEM;NOON;SEEN;AIN;FEH;SAD;QAF;REH;SHEEN;TEH;THEH;
      KHAH;THAL;DAD;ZAH;GHAIN"⟩, ⟨0x1EEA1, "ARABIC MATHEMATICAL DOUBLE-STRUCK ", "BEH;JEEM;DAL"⟩,
    ⟨0x1EEA5, "ARABIC MATHEMATICAL DOUBLE-STRUCK ", "WAW;ZAIN;HAH;TAH;YEH"⟩,
    ⟨0x1EEAB, "ARABIC MATHEMATICAL DOUBLE-STRUCK ", "LAM;MEEM;NOON;SEEN;AIN;FEH;SAD;QAF;REH;SHEEN;
      TEH;THEH;KHAH;THAL;DAD;ZAH;GHAIN"⟩,
    ⟨0x1EEF0, "ARABIC MATHEMATICAL OPERATOR ", "MEEM WITH HAH WITH TATWEEL;HAH WITH DAL"⟩]

end ContractScan.Text
